/-
Hosts written and read.

The text of a host in a URL of the web has none of the characters that end a host, and reading
it gives the host back.  Of a name that asks that it is its own ASCII form; an address needs
no such condition.
-/
import HttpGet.Proofs.Text.Segmentation
import HttpGet.Proofs.Url.Address
import HttpGet.Proofs.Url.Domain
import HttpGet.Proofs.Url.Percent
import HttpGet.Url.Parser

namespace HttpGet.Host

/-- Whether a host, if it is a name, is its own ASCII form. -/
def IsSettled (h : Host) : Prop := ∀ name, h = .name name → Domain.toAscii? name = some name

/-- What may stand in the text of a host outside brackets. -/
def IsPlain (c : Char) : Prop := c.toNat < 0x80 ∧ Domain.forbidden c = false

theorem IsPlain.ne {c d : Char} (h : IsPlain c) (hd : Domain.forbidden d = true) : c ≠ d := by
  rintro rfl
  exact absurd hd (by simp [h.2])

/-! ### Names and dotted addresses -/

/-- A text of characters that a host may have is its own decoding. -/
theorem ofText?_of_plain {s : List Char} (hplain : ∀ c ∈ s, IsPlain c) :
    ofText? s = (Domain.toAscii? s).bind fun ascii =>
      if Ipv4.endsInNumber ascii then (Ipv4.ofHost? ascii).map .v4 else some (.name ascii) := by
  have hbracket : ∀ rest, s = '[' :: rest → False := by
    rintro rest rfl
    exact (hplain '[' (by simp)).ne (by decide) rfl
  have hpercent : '%' ∉ s := fun h => (hplain '%' h).ne (by decide) rfl
  have hname : Utf8.decode? (Percent.decode s) = some (String.ofList s) := by
    have hdecode := Utf8.decode?_encode (String.ofList s)
    rwa [Utf8.encode, String.toList_ofList, ← Percent.decode_of_not_mem hpercent] at hdecode
  rw [ofText?]
  · simp only [hname, Option.bind_eq_bind, Option.bind_some, String.toList_ofList]
  · exact hbracket

/-- What a name that was read is like. -/
theorem of_ofText?_name {s name : List Char} (h : ofText? s = some (.name name)) :
    name ≠ [] ∧ (∀ c ∈ name, IsPlain c) ∧ Ipv4.endsInNumber name = false := by
  unfold ofText? at h
  split at h
  · obtain ⟨a, -, ha⟩ := Option.map_eq_some_iff.mp (by
      rw [bracketed?] at h
      split at h
      · exact h
      · exact absurd h (by simp))
    exact absurd ha (by simp)
  · obtain ⟨decoded, -, h⟩ := Option.bind_eq_some_iff.mp h
    obtain ⟨ascii, hascii, h⟩ := Option.bind_eq_some_iff.mp h
    split at h
    · obtain ⟨a, -, ha⟩ := Option.map_eq_some_iff.mp h
      exact absurd ha (by simp)
    · rename_i hends
      obtain rfl : ascii = name := by simpa using h
      obtain ⟨hne, hplain⟩ := Domain.of_toAscii? hascii
      exact ⟨hne, hplain, Bool.eq_false_iff.mpr hends⟩

theorem isPlain_of_mem_v4 {a : Ipv4} : ∀ c ∈ a.write, IsPlain c := by
  have all : ∀ c ∈ Ipv4.signs, c.toNat < 0x80 ∧ Domain.forbidden c = false :=
    forall_mem_of_all (by decide)
  exact fun c hc => all c (Ipv4.mem_write c hc)

/-- A dotted address is its own ASCII form. -/
theorem toAscii?_v4 (a : Ipv4) : Domain.toAscii? a.write = some a.write := by
  have hsmall : ∀ c ∈ Ipv4.signs, c.toLower = c ∧ c ≠ 'x' :=
    forall_mem_of_all (by decide)
  refine Domain.toAscii?_of_small ?_ (fun c hc => ?_) fun label hlabel => ?_
  · exact a.write_ne_nil
  · exact ⟨(isPlain_of_mem_v4 c hc).1, (hsmall c (Ipv4.mem_write c hc)).1, (isPlain_of_mem_v4 c hc).2⟩
  · cases label with
    | nil => rfl
    | cons c rest =>
        have hc := (hsmall c (Ipv4.mem_write c (mem_splitWhere hlabel c (by simp)).2)).2
        simp [Domain.codeMark, List.isPrefixOf, hc.symm]

/-- The text of a host that was read spells it. -/
theorem ofText?_write {s : List Char} {h : Host} (hs : ofText? s = some h) (hsettled : h.IsSettled) :
    ofText? h.write = some h := by
  cases h with
  | name name =>
      obtain ⟨-, hplain, hends⟩ := of_ofText?_name hs
      rw [write, ofText?_of_plain hplain, hsettled name rfl, Option.bind_some, hends]
      rfl
  | v4 a =>
      rw [write, ofText?_of_plain isPlain_of_mem_v4, toAscii?_v4, Option.bind_some,
        if_pos a.endsInNumber_write, a.ofHost?_write]
      rfl
  | v6 a =>
      have hlast : (a.write ++ [']']).getLast? = some ']' := by simp
      have hinner : (a.write ++ [']']).dropLast = a.write := by simp
      rw [write, List.cons_append, ofText?, bracketed?, if_pos hlast, hinner, a.ofText?_write]
      rfl

/-! ### Where a host ends -/

/-- The characters that end a host, or that do not count in a URL. -/
def ends (c : Char) : Bool := c.toNat ≤ 0x20 || c ∈ ['#', '/', '?', '@', '\\']

/-- The text of a host that was read does not end within. -/
theorem ends_write {s : List Char} {h : Host} (hs : ofText? s = some h) :
    ∀ c ∈ h.write, ends c = false := by
  have hplain : ∀ c, IsPlain c → ends c = false := by
    intro c hc
    have hforbidden : ends c = true → Domain.forbidden c = true := by
      simp only [ends, Domain.forbidden, Bool.or_eq_true, decide_eq_true_eq, List.mem_cons,
        List.not_mem_nil, or_false]
      rintro (h | h | h | h | h | h) <;> simp [h]
    exact Bool.eq_false_iff.mpr fun h => absurd (hforbidden h) (by simp [hc.2])
  cases h with
  | name name => exact fun c hc => hplain c ((of_ofText?_name hs).2.1 c hc)
  | v4 a => exact fun c hc => hplain c (isPlain_of_mem_v4 c hc)
  | v6 a =>
      have all : ∀ c ∈ '[' :: ']' :: Ipv6.signs, ends c = false :=
        forall_mem_of_all (by decide)
      refine List.forall_mem_cons.mpr ⟨by decide, List.forall_mem_append.mpr ⟨?_, ?_⟩⟩
      · exact fun c hc => all c (by simp [Ipv6.mem_write c hc])
      · exact fun c hc => all c (by simp [List.mem_singleton.mp hc])

theorem write_ne_nil {s : List Char} {h : Host} (hs : ofText? s = some h) : h.write ≠ [] := by
  cases h with
  | name name => exact (of_ofText?_name hs).1
  | v4 a => exact a.write_ne_nil
  | v6 a => exact List.cons_ne_nil _ _

/-- Outside brackets a port begins at the first colon. -/
theorem cutPort_append {s : List Char} (h : ∀ c ∈ s, c ≠ ':' ∧ c ≠ '[') (rest : List Char) :
    Url.cutPort false (s ++ rest) =
      (s ++ (Url.cutPort false rest).1, (Url.cutPort false rest).2) := by
  induction s with
  | nil => rfl
  | cons c s ih =>
      obtain ⟨⟨hcolon, hbracket⟩, hs⟩ := List.forall_mem_cons.mp h
      simp [Url.cutPort, hcolon, hbracket, ih hs]

/-- No port begins within brackets. -/
theorem cutPort_brackets {s : List Char} (h : ∀ c ∈ s, c ≠ '[' ∧ c ≠ ']') (rest : List Char) :
    Url.cutPort true (s ++ ']' :: rest) =
      (s ++ ']' :: (Url.cutPort false rest).1, (Url.cutPort false rest).2) := by
  induction s with
  | nil => simp [Url.cutPort]
  | cons c s ih =>
      obtain ⟨⟨hopen, hclose⟩, hs⟩ := List.forall_mem_cons.mp h
      simp [Url.cutPort, hopen, hclose, ih hs]

/-- The text of a host that was read has no port in it. -/
theorem cutPort_write {s : List Char} {h : Host} (hs : ofText? s = some h) (rest : List Char) :
    Url.cutPort false (h.write ++ rest) =
      (h.write ++ (Url.cutPort false rest).1, (Url.cutPort false rest).2) := by
  have hplain : ∀ c, IsPlain c → c ≠ ':' ∧ c ≠ '[' := fun c hc =>
    ⟨hc.ne (by decide), hc.ne (by decide)⟩
  cases h with
  | name name => exact cutPort_append (fun c hc => hplain c ((of_ofText?_name hs).2.1 c hc)) rest
  | v4 a => exact cutPort_append (fun c hc => hplain c (isPlain_of_mem_v4 c hc)) rest
  | v6 a =>
      have all : ∀ c ∈ Ipv6.signs, c ≠ '[' ∧ c ≠ ']' := forall_mem_of_all (by decide)
      have hinner := cutPort_brackets (fun c hc => all c (Ipv6.mem_write (a := a) c hc)) rest
      simp [write, Url.cutPort, hinner]

end HttpGet.Host
