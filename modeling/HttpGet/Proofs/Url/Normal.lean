/-
The normal form of URLs.

Reading an http URL brings each of its parts into normal form: the host is one that its own
text spells, the port is not the default one, the segments are encoded and no dots, and the
query is encoded.  A URL whose parts are in normal form is read back from the text under which
it is asked for, without user and fragment.
-/
import HttpGet.Network
import HttpGet.Proofs.Url.Host

namespace HttpGet.Url

/-! ### Segments -/

/-- Whether a text can be a segment: it is encoded, and has no slash in it. -/
def IsSegmentText (s : List Char) : Prop :=
  ∀ c ∈ s, (c.toNat < 0x80 ∧ Percent.notInPath c = false) ∧ isSlash .web c = false

/-- Whether a segment is in normal form: it is such a text, and no dots. -/
structure IsSegment (s : List Char) : Prop where
  text : IsSegmentText s
  dot : isDot s = false
  doubleDot : isDoubleDot s = false

theorem isSegment_nil : IsSegment [] := ⟨by simp [IsSegmentText], by decide, by decide⟩

/-- Entering a segment keeps the levels in normal form. -/
theorem isSegment_enterSegment {inner : List (List Char)} {s : List Char}
    (hinner : ∀ t ∈ inner, IsSegment t) (hs : IsSegmentText s) (last : Bool) :
    ∀ t ∈ enterSegment last inner s, IsSegment t := by
  have hended : ∀ levels : List (List Char), (∀ t ∈ levels, IsSegment t) →
      ∀ t ∈ (if last then [] :: levels else levels), IsSegment t := by
    intro levels hlevels
    split
    · exact List.forall_mem_cons.mpr ⟨isSegment_nil, hlevels⟩
    · exact hlevels
  have habove : ∀ t ∈ above inner, IsSegment t := by
    cases inner with
    | nil => simp [above]
    | cons segment outer =>
        rw [above]
        split
        · exact hinner
        · exact (List.forall_mem_cons.mp hinner).2
  simp only [enterSegment]
  split
  · exact hended _ habove
  · rename_i hdouble
    split
    · exact hended _ hinner
    · rename_i hdot
      exact List.forall_mem_cons.mpr
        ⟨⟨hs, Bool.eq_false_iff.mpr hdot, Bool.eq_false_iff.mpr hdouble⟩, hinner⟩

/-- A path has at least one segment: where dots end it, an empty one is left. -/
theorem enterSegment_last_ne_nil (inner : List (List Char)) (s : List Char) :
    enterSegment true inner s ≠ [] := by
  simp only [enterSegment]
  split
  · simp
  · split <;> simp

/-- Entering segments leaves levels in normal form, at least one. -/
theorem isSegment_enter {inner segments : List (List Char)} (hne : segments ≠ [])
    (hinner : ∀ t ∈ inner, IsSegment t) (h : ∀ s ∈ segments, IsSegmentText s) :
    enter inner segments ≠ [] ∧ ∀ t ∈ enter inner segments, IsSegment t := by
  induction segments generalizing inner with
  | nil => exact absurd rfl hne
  | cons s rest ih =>
      obtain ⟨hs, hrest⟩ := List.forall_mem_cons.mp h
      have hstep := isSegment_enterSegment hinner hs rest.isEmpty
      rw [enter]
      cases rest with
      | nil =>
          rw [enter]
          refine ⟨?_, fun t ht => hstep t (List.mem_reverse.mp ht)⟩
          simpa using enterSegment_last_ne_nil inner s
      | cons t rest => exact ih (by simp) hstep hrest

/-- What stands between two slashes of a path becomes the text of a segment. -/
theorem isSegmentText_encode {s : List Char} (h : ∀ c ∈ s, isSlash .web c = false) :
    IsSegmentText (Percent.encode Percent.notInPath s) := by
  have hsigns : ∀ c ∈ Percent.signs,
      (c.toNat < 0x80 ∧ Percent.notInPath c = false) ∧ isSlash .web c = false :=
    forall_mem_of_all (by decide)
  intro c hc
  obtain ⟨hmem, hplain⟩ | hsign := Percent.mem_encode hc
  · exact ⟨hplain, h c hmem⟩
  · exact hsigns c hsign

theorem isSegment_segmentsFrom (s : List Char) :
    segmentsFrom .web [] s ≠ [] ∧ ∀ t ∈ segmentsFrom .web [] s, IsSegment t := by
  refine isSegment_enter (by simp) (by simp) fun t ht => ?_
  obtain ⟨piece, hpiece, rfl⟩ := List.mem_map.mp ht
  exact isSegmentText_encode fun c hc => (mem_splitWhere hpiece c hc).1

theorem joinWith_cons (s : List Char) (rest : List (List Char)) :
    joinWith ['/'] (s :: rest) = s ++ writeSegments rest := by
  induction rest generalizing s with
  | nil => simp [joinWith, writeSegments]
  | cons t rest ih =>
      rw [joinWith, ih t]
      · simp [writeSegments]
      · simp

/-- Segments in normal form are read back. -/
theorem segmentsFrom_writeSegments {segments : List (List Char)} (hne : segments ≠ [])
    (h : ∀ s ∈ segments, IsSegment s) :
    segmentsFrom .web [] (afterSlash .web (writeSegments segments)) = segments := by
  have hafter : afterSlash .web (writeSegments segments) = joinWith ['/'] segments := by
    cases segments with
    | nil => exact absurd rfl hne
    | cons s rest => exact (joinWith_cons s rest).symm
  have hsplit : splitWhere (isSlash .web) (joinWith ['/'] segments) = segments :=
    splitWhere_joinWith (by decide) hne fun s hs c hc => ((h s hs).text c hc).2
  have hencode : segments.map (Percent.encode Percent.notInPath) = segments := by
    conv => rhs; rw [← List.map_id segments]
    exact List.map_congr_left fun s hs =>
      Percent.encode_of_isEncoded fun c hc => ((h s hs).text c hc).1
  rw [hafter, segmentsFrom, hsplit, hencode,
    enter_of_plain fun s hs => ⟨(h s hs).dot, (h s hs).doubleDot⟩]
  rfl

/-! ### The parts of a text -/

theorem clean_of_isMargin {s : List Char} (h : ∀ c ∈ s, isMargin c = false) : clean s = s := by
  refine clean_of_all fun c hc => ?_
  have hmargin := h c hc
  rw [Bool.eq_false_iff] at hmargin ⊢
  refine mt (fun hspace => ?_) hmargin
  simp only [isLineSpace, Bool.or_eq_true, decide_eq_true_eq] at hspace
  obtain (rfl | rfl) | rfl := hspace <;> decide

theorem withoutMargins_of_all {s : List Char} (h : ∀ c ∈ s, isMargin c = false) :
    withoutMargins s = s := by
  have hdrop : ∀ t : List Char, (∀ c ∈ t, isMargin c = false) → t.dropWhile isMargin = t := by
    intro t ht
    cases t with
    | nil => rfl
    | cons c rest => exact List.dropWhile_cons_of_neg (by simp [ht c])
  rw [withoutMargins, hdrop s h, hdrop _ fun c hc => h c (List.mem_reverse.mp hc),
    List.reverse_reverse]

/-- A main part without `#` and `?`, and a query without `#`, are cut apart again. -/
theorem cutParts_writePart {s : List Char} {query : Option (List Char)}
    (hs : ∀ c ∈ s, c ≠ '#' ∧ c ≠ '?') (hquery : ∀ q, query = some q → ∀ c ∈ q, c ≠ '#') :
    cutParts (s ++ writePart '?' query) = (s, query, none) := by
  have hhash : ∀ c ∈ s ++ writePart '?' query, decide (c = '#') = false := by
    refine List.forall_mem_append.mpr ⟨fun c hc => decide_eq_false (hs c hc).1, ?_⟩
    cases query with
    | none => simp [writePart]
    | some q =>
        exact List.forall_mem_cons.mpr ⟨by decide, fun c hc => decide_eq_false (hquery q rfl c hc)⟩
  have hmark : ∀ c ∈ s, decide (c = '?') = false := fun c hc => decide_eq_false (hs c hc).2
  have hcut : cutAt (· = '?') (s ++ writePart '?' query) = (s, query) := by
    cases query with
    | none => rw [writePart, List.append_nil, cutAt_of_none hmark]
    | some q => rw [writePart, cutAt_append_cons hmark (by decide)]
  rw [cutParts, cutAt_of_none hhash]
  simp only [hcut]

/-- The text of an http URL is read part by part. -/
theorem parse?_http {s : List Char} {query : Option (List Char)}
    (hs : ∀ c ∈ s, isMargin c = false ∧ c ≠ '#' ∧ c ≠ '?')
    (hquery : ∀ q, query = some q → ∀ c ∈ q, isMargin c = false ∧ c ≠ '#') :
    parse? (String.ofList ("http:".toList ++ s ++ writePart '?' query)) =
      absolute? "http".toList s query none := by
  have hmain : ∀ c ∈ "http:".toList ++ s, isMargin c = false ∧ c ≠ '#' ∧ c ≠ '?' :=
    List.forall_mem_append.mpr ⟨forall_mem_of_all (by decide), hs⟩
  have hmargins : ∀ c ∈ "http:".toList ++ s ++ writePart '?' query, isMargin c = false := by
    refine List.forall_mem_append.mpr ⟨fun c hc => (hmain c hc).1, ?_⟩
    cases query with
    | none => simp [writePart]
    | some q => exact List.forall_mem_cons.mpr ⟨by decide, fun c hc => (hquery q rfl c hc).1⟩
  have hcut := cutParts_writePart (fun c hc => (hmain c hc).2) fun q hq c hc => (hquery q hq c hc).2
  have hscheme : scheme? ("http:".toList ++ s) = some ("http".toList, s) := by
    have hcolon : cutAt (· = ':') ("http".toList ++ ':' :: s) = ("http".toList, some s) :=
      cutAt_append_cons (forall_mem_of_all (by decide)) (by decide)
    rw [show "http:".toList ++ s = "http".toList ++ ':' :: s from rfl, scheme?, hcolon]
    rfl
  have hclean : query.map clean = query := by
    cases query with
    | none => rfl
    | some q => exact congrArg some (clean_of_isMargin fun c hc => (hquery q rfl c hc).1)
  rw [parse?, String.toList_ofList, withoutMargins_of_all hmargins, hcut]
  simp only [hscheme, hclean, Option.bind_eq_bind, Option.bind_some, Option.map_none]

/-! ### Authority and path -/

section Authority

variable {scheme : List Char} {host : Host} {port : Option Nat}

/-- Whether a port is one that the URLs of a scheme keep. -/
def IsKept (scheme : List Char) (port : Option Nat) : Prop :=
  ∀ p, port = some p → p ≤ 65535 ∧ defaultPort? scheme ≠ some p

theorem cutPort_writePort (port : Option Nat) :
    cutPort false (writePort port) = ([], port.map (Nat.toDigits 10)) := by
  cases port with
  | none => rfl
  | some p => simp [writePort, cutPort]

theorem cutDigits?_of_digits {digits : List Char} (h : ∀ c ∈ digits, c.isDigit = true) :
    cutDigits? digits = some (digits, []) := by
  have hdrop : digits.dropWhile Char.isDigit = [] := by
    rw [← List.append_nil digits, List.dropWhile_append_of_pos h]
    rfl
  rw [cutDigits?, hdrop]

/-- The digits of a port that is kept spell it. -/
theorem port?_toDigits (h : IsKept scheme port) :
    port? scheme ((port.map (Nat.toDigits 10)).getD []) = some port := by
  cases port with
  | none => simp [port?]
  | some p =>
      obtain ⟨hle, hdefault⟩ := h p rfl
      have hvalue : Nat.ofDigitChars 10 (Nat.toDigits 10 p) 0 = p :=
        Nat.ofDigitChars_toDigits (by decide) (by decide)
      simp [port?, hvalue, Nat.not_lt.mpr hle, Nat.toDigits_ne_nil, hdefault]

theorem isKept_of_port? {digits : List Char} (h : port? scheme digits = some port) :
    IsKept scheme port := by
  rintro p rfl
  simp only [port?] at h
  split at h
  · exact absurd h (by simp)
  · rename_i hle
    split at h
    · exact absurd h (by simp)
    · rename_i hkept
      obtain rfl : Nat.ofDigitChars 10 digits 0 = p := by simpa using h
      simp only [Bool.or_eq_true, decide_eq_true_eq, not_or] at hkept
      exact ⟨Nat.le_of_not_lt hle, hkept.2⟩

/-- Neither a host nor a port has what ends the two. -/
theorem ends_authority (hhost : Host.ofText? host.write = some host) :
    ∀ c ∈ host.write ++ writePort port, Host.ends c = false := by
  refine List.forall_mem_append.mpr ⟨Host.ends_write hhost, ?_⟩
  cases port with
  | none => simp [writePort]
  | some p =>
      have all : ∀ c ∈ digitSigns.take 10, Host.ends c = false := forall_mem_of_all (by decide)
      exact List.forall_mem_cons.mpr
        ⟨by decide, fun c hc => all c (mem_toDigits (by decide) (by decide) hc)⟩

theorem isSlash_of_ends {c : Char} (h : Host.ends c = false) : isSlash .web c = false := by
  rw [Bool.eq_false_iff]
  intro hslash
  simp only [isSlash, Bool.or_eq_true, Bool.and_eq_true, decide_eq_true_eq] at hslash
  obtain rfl | ⟨rfl, -⟩ := hslash
  · exact absurd h (by decide)
  · exact absurd h (by decide)

/-- A host and a port are read back. -/
theorem authority?_write (hkind : kindOf scheme = .web)
    (hhost : Host.ofText? host.write = some host) (hport : IsKept scheme port) (followed : Bool) :
    authority? scheme followed (host.write ++ writePort port) =
      some (⟨default, host, port⟩, []) := by
  have hdigits : ∀ c ∈ (port.map (Nat.toDigits 10)).getD [], c.isDigit = true := by
    cases port with
    | none => simp
    | some p => exact fun c hc => Nat.isDigit_of_mem_toDigits (by decide) (by decide) hc
  have hat : cutAtLast (· = '@') (host.write ++ writePort port) =
      (none, host.write ++ writePort port) := by
    refine cutAtLast_of_none fun c hc => decide_eq_false ?_
    rintro rfl
    exact absurd (ends_authority hhost '@' hc) (by decide)
  have hcut : cutPort false (host.write ++ writePort port) =
      (host.write, port.map (Nat.toDigits 10)) := by
    rw [Host.cutPort_write hhost, cutPort_writePort, List.append_nil]
  have hnamed : host ≠ .name [] := by
    rintro rfl
    exact Host.write_ne_nil hhost rfl
  rw [authority?, hat]
  simp [hcut, hkind, hhost, cutDigits?_of_digits hdigits, port?_toDigits hport, hnamed]

/-- An authority that was read has a host that was read, and a port that is kept. -/
theorem of_authority? (hkind : kindOf scheme = .web) {followed : Bool} {s rest : List Char}
    {a : Authority} (h : authority? scheme followed s = some (a, rest)) :
    (∃ text, Host.ofText? text = some a.host) ∧ IsKept scheme a.port := by
  simp only [authority?, hkind, reduceCtorEq, if_false, Option.bind_eq_bind, Option.bind_none,
    Option.ite_none_left_eq_some, Option.bind_eq_some_iff, Option.pure_def, Option.some.injEq,
    Prod.mk.injEq, Prod.exists] at h
  obtain ⟨-, host, hhost, digits, rest', -, port, hport, -, rfl, -⟩ := h
  exact ⟨⟨_, hhost⟩, isKept_of_port? hport⟩

/-- Authority and path are read back. -/
theorem hierarchy?_write (hkind : kindOf scheme = .web)
    (hhost : Host.ofText? host.write = some host) (hport : IsKept scheme port)
    {segments : List (List Char)} (hne : segments ≠ []) (h : ∀ s ∈ segments, IsSegment s)
    (more : Bool) :
    hierarchy? scheme more (host.write ++ writePort port ++ writeSegments segments) =
      some (⟨default, host, port⟩, .segments segments) := by
  have hslash : ∀ c ∈ host.write ++ writePort port, (!isSlash .web c) = true := by
    intro c hc
    rw [isSlash_of_ends (ends_authority hhost c hc), Bool.not_false]
  obtain ⟨first, rest, rfl⟩ := List.exists_cons_of_ne_nil hne
  have htake : (host.write ++ writePort port ++ writeSegments (first :: rest)).takeWhile
      (!isSlash .web ·) = host.write ++ writePort port := by
    rw [List.takeWhile_append_of_pos hslash]
    exact List.append_nil _
  have hdrop : (host.write ++ writePort port ++ writeSegments (first :: rest)).dropWhile
      (!isSlash .web ·) = writeSegments (first :: rest) := by
    rw [List.dropWhile_append_of_pos hslash]
    rfl
  have hpath : pathAfterAuthority .web (writeSegments (first :: rest)) =
      .segments (first :: rest) := by
    rw [pathAfterAuthority, segmentsFrom_writeSegments hne h, Bool.and_comm]
    rfl
  simp only [hierarchy?, hkind, htake, hdrop, authority?_write hkind hhost hport,
    Option.bind_eq_bind, Option.bind_some, List.nil_append, hpath, Option.pure_def]

theorem of_hierarchy? (hkind : kindOf scheme = .web) {more : Bool} {s : List Char}
    {a : Authority} {path : Path} (h : hierarchy? scheme more s = some (a, path)) :
    (∃ text, Host.ofText? text = some a.host) ∧ IsKept scheme a.port ∧
      ∃ segments, path = .segments segments ∧ segments ≠ [] ∧ ∀ s ∈ segments, IsSegment s := by
  obtain ⟨⟨authority, rest⟩, hauthority, heq⟩ := Option.bind_eq_some_iff.mp h
  simp only [Option.pure_def, Option.some.injEq, Prod.mk.injEq] at heq
  obtain ⟨rfl, rfl⟩ := heq
  obtain ⟨hhost, hport⟩ := of_authority? hkind hauthority
  refine ⟨hhost, hport, ?_⟩
  rw [hkind, pathAfterAuthority, if_neg (by simp)]
  exact ⟨_, rfl, isSegment_segmentsFrom _⟩

end Authority

/-! ### What counts in a URL -/

theorem counts_of_ends {c : Char} (h : Host.ends c = false) :
    isMargin c = false ∧ c ≠ '#' ∧ c ≠ '?' := by
  simp only [Host.ends, Bool.or_eq_false_iff, decide_eq_false_iff_not, List.mem_cons,
    not_or] at h
  exact ⟨decide_eq_false h.1, h.2.1, h.2.2.2.1⟩

theorem isMargin_of_not_isControl {c : Char} (hcontrol : Percent.isControl c = false)
    (hspace : c ≠ ' ') : isMargin c = false := by
  simp only [Percent.isControl, Bool.or_eq_false_iff, decide_eq_false_iff_not] at hcontrol
  have hne : c.toNat ≠ 0x20 := fun h => hspace (Char.toNat_inj.mp h)
  exact decide_eq_false (by omega)

theorem counts_of_notInPath {c : Char} (h : Percent.notInPath c = false) :
    isMargin c = false ∧ c ≠ '#' ∧ c ≠ '?' := by
  simp only [Percent.notInPath, Percent.notInFragment, Bool.or_eq_false_iff,
    decide_eq_false_iff_not, List.mem_cons, not_or] at h
  exact ⟨isMargin_of_not_isControl h.1.1 h.1.2.1, h.2.1, h.2.2.1⟩

theorem counts_of_notInSpecialQuery {c : Char} (h : Percent.notInSpecialQuery c = false) :
    isMargin c = false ∧ c ≠ '#' := by
  simp only [Percent.notInSpecialQuery, Percent.notInQuery, Bool.or_eq_false_iff,
    decide_eq_false_iff_not, List.mem_cons, not_or] at h
  exact ⟨isMargin_of_not_isControl h.1.1 h.1.2.1, h.1.2.2.2.1⟩

theorem counts_writeSegments {segments : List (List Char)} (h : ∀ s ∈ segments, IsSegment s) :
    ∀ c ∈ writeSegments segments, isMargin c = false ∧ c ≠ '#' ∧ c ≠ '?' := by
  intro c hc
  obtain ⟨s, hs, hc⟩ := List.mem_flatMap.mp hc
  obtain rfl | hc := List.mem_cons.mp hc
  · decide
  · exact counts_of_notInPath ((h s hs).text c hc).1.2

/-! ### URLs -/

/-- Whether the part of a URL that is asked for is in normal form. -/
structure IsNormal (u : Url) : Prop where
  scheme : u.scheme = "http".toList
  authority : ∃ a, u.authority = some a ∧ Host.ofText? a.host.write = some a.host ∧
    IsKept u.scheme a.port
  path : ∃ segments, u.path = .segments segments ∧ segments ≠ [] ∧ ∀ s ∈ segments, IsSegment s
  query : ∀ q, u.query = some q → Percent.IsEncoded Percent.notInSpecialQuery q

/-- Whether the host of a URL, if it is a name, is its own ASCII form. -/
def HostIsSettled (u : Url) : Prop := ∀ a, u.authority = some a → a.host.IsSettled

theorem kindOf_http : kindOf "http".toList = .web := by decide

theorem afterScheme?_of_web {scheme : List Char} (hkind : kindOf scheme = .web) (more : Bool)
    (s : List Char) : afterScheme? scheme more s =
      (hierarchy? scheme more ((clean s).dropWhile (isSlash .web))).map fun p =>
        (some p.1, p.2) := by
  rw [afterScheme?, hkind]

theorem isNormal_of_absolute? {s : List Char} {query fragment : Option (List Char)} {u : Url}
    (h : absolute? "http".toList s query fragment = some u) (hsettled : u.HostIsSettled) :
    u.IsNormal := by
  rw [absolute?, afterScheme?_of_web kindOf_http] at h
  obtain ⟨⟨authority, path⟩, hafter, h⟩ := Option.bind_eq_some_iff.mp h
  obtain ⟨⟨a, path'⟩, hhierarchy, heq⟩ := Option.map_eq_some_iff.mp hafter
  obtain ⟨rfl, rfl⟩ := Prod.mk.inj heq
  obtain rfl := Option.some.inj h
  obtain ⟨⟨text, hhost⟩, hport, hpath⟩ := of_hierarchy? kindOf_http hhierarchy
  have hsigns : Percent.IsEncoded Percent.notInSpecialQuery Percent.signs :=
    forall_mem_of_all (by decide)
  refine ⟨rfl, ⟨a, rfl, Host.ofText?_write hhost (hsettled a rfl), hport⟩, hpath, ?_⟩
  rintro q hq
  obtain ⟨text, -, rfl⟩ := Option.map_eq_some_iff.mp hq
  rw [kindOf_http]
  exact Percent.isEncoded_encode hsigns text

/-- Reading brings the parts of an http URL into normal form. -/
theorem isNormal_of_parse? {text : String} {u : Url} (h : parse? text = some u)
    (hscheme : u.scheme = "http".toList) (hsettled : u.HostIsSettled) : u.IsNormal := by
  simp only [parse?, Option.bind_eq_bind, Option.bind_eq_some_iff, Prod.exists] at h
  obtain ⟨scheme, s, -, h⟩ := h
  obtain rfl : u.scheme = scheme := by
    obtain ⟨_, -, h⟩ := Option.bind_eq_some_iff.mp h
    exact congrArg Url.scheme (Option.some.inj h).symm
  rw [hscheme] at h
  exact isNormal_of_absolute? h hsettled

/-- A URL in normal form is read back from what is asked for. -/
theorem parse?_target {u : Url} (h : u.IsNormal) : parse? u.target = some u.forRequest := by
  obtain ⟨scheme, authority, path, query, fragment⟩ := u
  obtain ⟨hscheme, ⟨a, hauthority, hhost, hport⟩, ⟨segments, hpath, hne, hsegments⟩, hquery⟩ := h
  obtain rfl : scheme = "http".toList := hscheme
  obtain rfl : authority = some a := hauthority
  obtain rfl : path = .segments segments := hpath
  have htarget : target ⟨"http".toList, some a, .segments segments, query, fragment⟩ =
      String.ofList ("http:".toList ++ ('/' :: '/' :: (a.host.write ++ writePort a.port ++
        writeSegments segments)) ++ writePart '?' query) := by
    simp [target, withoutUser, writeBeforeFragment, Authority.write, UserInfo.write, Path.write,
      default]
  have hcounts : ∀ c ∈ '/' :: '/' :: (a.host.write ++ writePort a.port ++ writeSegments segments),
      isMargin c = false ∧ c ≠ '#' ∧ c ≠ '?' := by
    refine List.forall_mem_cons.mpr ⟨by decide, List.forall_mem_cons.mpr ⟨by decide, ?_⟩⟩
    refine List.forall_mem_append.mpr ⟨fun c hc => ?_, counts_writeSegments hsegments⟩
    exact counts_of_ends (ends_authority hhost c hc)
  have hquery' : ∀ q, query = some q → ∀ c ∈ q, isMargin c = false ∧ c ≠ '#' :=
    fun q hq c hc => counts_of_notInSpecialQuery (hquery q hq c hc).2
  have hclean := clean_of_isMargin fun c hc => (hcounts c hc).1
  have hstart : ('/' :: '/' :: (a.host.write ++ writePort a.port ++ writeSegments segments)).dropWhile
      (isSlash .web) = a.host.write ++ writePort a.port ++ writeSegments segments := by
    obtain ⟨c, rest, hwrite⟩ := List.exists_cons_of_ne_nil (Host.write_ne_nil hhost)
    have hc : isSlash .web c = false := isSlash_of_ends (Host.ends_write hhost c (by simp [hwrite]))
    rw [hwrite, List.dropWhile_cons_of_pos (by decide), List.dropWhile_cons_of_pos (by decide)]
    exact List.dropWhile_cons_of_neg (by simp [hc])
  have hencoded : queryOf .web query = query := by
    cases query with
    | none => rfl
    | some q => exact congrArg some (Percent.encode_of_isEncoded (hquery q rfl))
  rw [htarget, parse?_http hcounts hquery', absolute?, afterScheme?_of_web kindOf_http, hclean,
    hstart, hierarchy?_write kindOf_http hhost hport hne hsegments, kindOf_http, hencoded]
  rfl

end HttpGet.Url
