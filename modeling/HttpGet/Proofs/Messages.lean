/-
Responses as bytes.

A response is spelled by a status line, a line for each header with an empty line at the end, and
the bytes that carry its body.  What these are is said without the reader, and so are the limits
within which they are read.  The reader then gives back the response that is spelled, whatever comes
after it where the response tells its own end, and leaves what comes after it for others.
-/
import HttpGet.Proofs.Framing

namespace HttpGet

/-- A response as it is delivered: without a body, if its status allows none. -/
def Route.delivered (r : Route) : Route :=
  if r.hasBody then r else { r with body := [], framing := .length }

namespace Wire

/-- Whether bytes are the status line of a response: a version, three digits, and what reason there
is. -/
def StatusLine (version : Version) (status : Nat) (line : List UInt8) : Prop :=
  200 ≤ status ∧ status ≤ 999 ∧ ∃ reason,
    (reason = [] ∨ ∃ more, reason = 0x20 :: more) ∧ (∀ b ∈ reason, isValueByte b = true) ∧
    line = version.name ++ 0x20 :: (Utf8.encode (toString status) ++ reason) ++ lineEnd

/-- So long a head is read. -/
def headLimit : Nat := 417792

/-- Whether bytes are the head of a response. -/
def Head (version : Version) (r : Route) (head : List UInt8) : Prop :=
  ∃ line fields, StatusLine version r.status line ∧ HeaderLines r.headers fields ∧
    r.headers.length ≤ headerLimit ∧ head = line ++ fields ∧ head.length < headLimit

/-- Whether bytes spell a response. -/
def Spells (r : Route) (bytes : List UInt8) : Prop :=
  ∃ version head sent, Head version r head ∧
    (if r.hasBody then Carries version r sent else sent = []) ∧ bytes = head ++ sent

/-! ### Numbers -/

theorem encode_of_ascii {text : String} (h : ∀ c ∈ text.toList, c.toNat < 0x80) :
    Utf8.encode text = text.toList.map fun c => UInt8.ofNat c.toNat := by
  rw [Utf8.encode]
  generalize text.toList = s at h
  induction s with
  | nil => rfl
  | cons c s ih =>
      obtain ⟨hc, hs⟩ := List.forall_mem_cons.mp h
      rw [List.flatMap_cons, Utf8.encode_of_lt hc, List.singleton_append, List.map_cons, ih hs]

theorem range_of_isDigit {c : Char} (h : c.isDigit = true) : 0x30 ≤ c.toNat ∧ c.toNat ≤ 0x39 := by
  simp only [Char.isDigit, Bool.and_eq_true, decide_eq_true_eq] at h
  exact ⟨UInt32.le_iff_toNat_le.mp h.1, UInt32.le_iff_toNat_le.mp h.2⟩

/-- The byte of a digit. -/
theorem toNat_of_isDigit {c : Char} (h : c.isDigit = true) :
    (UInt8.ofNat c.toNat).toNat = c.toNat :=
  UInt8.toNat_ofNat_of_lt' (Nat.lt_of_le_of_lt (range_of_isDigit h).2 (by decide))

theorem isDigit_of_mem_toDigits {n : Nat} {c : Char} (h : c ∈ Nat.toDigits 10 n) :
    c.isDigit = true :=
  Nat.isDigit_of_mem_toDigits (by decide) (by decide) h

/-- A number is a byte for each of its digits. -/
theorem encode_toString (n : Nat) :
    Utf8.encode (toString n) = (Nat.toDigits 10 n).map fun c => UInt8.ofNat c.toNat := by
  have hdigits : (toString n).toList = Nat.toDigits 10 n := Nat.toList_repr
  rw [encode_of_ascii, hdigits]
  rw [hdigits]
  exact fun c hc => Nat.lt_of_le_of_lt (range_of_isDigit (isDigit_of_mem_toDigits hc)).2 (by decide)

/-- A number is read back. -/
theorem decimal?_encode (n : Nat) : decimal? (Utf8.encode (toString n)) = some n := by
  have hread : (Utf8.encode (toString n)).map (fun b => Char.ofNat b.toNat) = Nat.toDigits 10 n := by
    rw [encode_toString, List.map_map]
    refine (List.map_congr_left fun c hc => ?_).trans (List.map_id _)
    rw [Function.comp_apply, toNat_of_isDigit (isDigit_of_mem_toDigits hc), Char.ofNat_toNat, id]
  have hall : (Nat.toDigits 10 n).all Char.isDigit = true :=
    List.all_eq_true.mpr fun c hc => isDigit_of_mem_toDigits hc
  rw [decimal?, hread, if_neg (by simp [Nat.toDigits_ne_nil, hall]), Nat.ofDigitChars_ten_toDigits]

theorem notMem_encode_toString {b : UInt8} (h : b.toNat < 0x30) (n : Nat) :
    b ∉ Utf8.encode (toString n) := by
  rw [encode_toString]
  intro hb
  obtain ⟨c, hc, rfl⟩ := List.mem_map.mp hb
  have hdigit := isDigit_of_mem_toDigits hc
  rw [toNat_of_isDigit hdigit] at h
  exact Nat.not_le_of_lt h (range_of_isDigit hdigit).1

/-- A status is three digits. -/
theorem length_encode_toString {n : Nat} (hlow : 100 ≤ n) (hhigh : n ≤ 999) :
    (Utf8.encode (toString n)).length = 3 := by
  have hle := (Nat.length_toDigits_le_iff (b := 10) (n := n) (k := 3) (by decide) (by decide)).mpr
    (Nat.lt_succ_of_le hhigh)
  have hnot := mt (Nat.length_toDigits_le_iff (b := 10) (n := n) (k := 2) (by decide) (by decide)).mp
    (Nat.not_lt_of_le hlow)
  rw [encode_toString, List.length_map]
  exact Nat.le_antisymm hle (Nat.lt_of_not_le hnot)

/-! ### Heads -/

theorem version?_name (version : Version) : version? version.name = some version := by
  cases version <;> decide +kernel

theorem status?_of_code {version : Version} {code reason : List UInt8} {status : Nat}
    (hlow : 100 ≤ status) (hlength : code.length = 3) (hcode : 0x20 ∉ code)
    (hstatus : decimal? code = some status) (hreason : reason = [] ∨ ∃ more, reason = 0x20 :: more) :
    status? (version.name ++ 0x20 :: (code ++ reason)) = some (version, status) := by
  have hname : ∀ b ∈ version.name, decide (b = 0x20) = false := by cases version <;> decide +kernel
  have hplain : ∀ b ∈ code, decide (b = 0x20) = false :=
    fun b hb => decide_eq_false fun h => hcode (h ▸ hb)
  have hsplit : ∃ pieces, splitWhere (· = 0x20) (code ++ reason) = code :: pieces := by
    rcases hreason with rfl | ⟨more, rfl⟩
    · exact ⟨[], by rw [List.append_nil, splitWhere_eq_splitOnP, List.splitOnP_eq_singleton hplain]⟩
    · exact ⟨_, splitWhere_append_cons hplain (decide_eq_true rfl)⟩
  obtain ⟨pieces, hpieces⟩ := hsplit
  rw [status?, splitWhere_append_cons hname (decide_eq_true rfl), hpieces]
  simp only [version?_name, hstatus, hlength, hlow, Option.bind_eq_bind, Option.bind_some,
    decide_true, Bool.and_self, if_true]

theorem status?_of_statusLine {version : Version} {status : Nat} {line : List UInt8}
    (h : StatusLine version status line) :
    ∃ bytes, (∀ rest, line? (line ++ rest) = some (bytes, rest)) ∧
      status? bytes = some (version, status) := by
  obtain ⟨hlow, hhigh, reason, hreason, hplain, rfl⟩ := h
  have hlow : 100 ≤ status := Nat.le_trans (by decide) hlow
  have hline : lineFeed ∉ version.name ++ 0x20 :: (Utf8.encode (toString status) ++ reason) := by
    simp only [List.mem_append, List.mem_cons, not_or]
    refine ⟨?_, by decide, notMem_encode_toString (by decide) status, lineFeed_notMem_of_value hplain⟩
    cases version <;> decide +kernel
  exact ⟨_, line?_append hline, status?_of_code hlow (length_encode_toString hlow hhigh)
    (notMem_encode_toString (by decide) status) (decimal?_encode status) hreason⟩

theorem header?_of_colon {name value : List UInt8} (hne : name ≠ [])
    (hname : ∀ b ∈ name, isNameByte b = true) (hvalue : ∀ b ∈ value, isValueByte b = true) :
    header? (name ++ 0x3A :: value) = some (name, value) := by
  have hcolon : ∀ b ∈ name, decide (b = 0x3A) = false := by
    intro b hb
    rw [decide_eq_false_iff_not]
    rintro rfl
    exact absurd (hname _ hb) (by decide)
  rw [header?, cutAt_append_cons hcolon (decide_eq_true rfl)]
  simp only [List.isEmpty_eq_false_iff.mpr hne, List.all_eq_true.mpr hname,
    List.all_eq_true.mpr hvalue, Bool.not_false, Bool.and_self, if_true]

theorem headers?_of_line {line more : List UInt8} (hline : lineFeed ∉ line) :
    headers? (line ++ lineEnd ++ more) =
      if line.isEmpty then some ([], more)
      else
        match header? line, headers? more with
        | some header, some (headers, rest) => some (header :: headers, rest)
        | _, _ => none := by
  rw [headers?]
  split
  · rename_i h
    rw [line?_append hline] at h
    exact absurd h (by simp)
  · rename_i h
    rw [line?_append hline, Option.some.injEq, Prod.mk.injEq] at h
    obtain ⟨rfl, rfl⟩ := h
    rfl

theorem headers?_of_headerLines {headers : List (List UInt8 × List UInt8)} {sent : List UInt8}
    (h : HeaderLines headers sent) (rest : List UInt8) :
    headers? (sent ++ rest) = some (headers, rest) := by
  induction h with
  | nil => exact headers?_of_line List.not_mem_nil
  | cons hne hname hvalue h ih =>
      rw [List.append_assoc, headers?_of_line (header_line hname hvalue), if_neg (by simp),
        header?_of_colon hne hname hvalue, ih]

/-- The head of a response as a server may write it, without a reason. -/
def writeHead (status : Nat) (headers : List (List UInt8 × List UInt8)) : List UInt8 :=
  Version.http11.name ++ 0x20 :: (Utf8.encode (toString status) ++ [0x20]) ++ lineEnd ++
    ((headers.flatMap fun h => h.1 ++ 0x3A :: h.2 ++ lineEnd) ++ lineEnd)

theorem head_writeHead {r : Route} (hlow : 200 ≤ r.status) (hhigh : r.status ≤ 999)
    (hheaders : ∀ h ∈ r.headers, h.1 ≠ [] ∧ (∀ b ∈ h.1, isNameByte b = true) ∧
      ∀ b ∈ h.2, isValueByte b = true)
    (hcount : r.headers.length ≤ headerLimit)
    (hlength : (writeHead r.status r.headers).length < headLimit) :
    Head .http11 r (writeHead r.status r.headers) := by
  have hlines : ∀ headers : List (List UInt8 × List UInt8),
      (∀ h ∈ headers, h.1 ≠ [] ∧ (∀ b ∈ h.1, isNameByte b = true) ∧
        ∀ b ∈ h.2, isValueByte b = true) →
      HeaderLines headers ((headers.flatMap fun h => h.1 ++ 0x3A :: h.2 ++ lineEnd) ++ lineEnd) := by
    intro headers hheaders
    induction headers with
    | nil => exact .nil
    | cons h headers ih =>
        obtain ⟨⟨hne, hname, hvalue⟩, hrest⟩ := List.forall_mem_cons.mp hheaders
        rw [List.flatMap_cons, List.append_assoc]
        exact .cons hne hname hvalue (ih hrest)
  have hspace : ∀ b ∈ [0x20], isValueByte b = true := List.forall_mem_singleton.mpr rfl
  exact ⟨_, _, ⟨hlow, hhigh, [0x20], Or.inr ⟨[], rfl⟩, hspace, rfl⟩, hlines r.headers hheaders,
    hcount, rfl, hlength⟩

theorem head?_of_head {version : Version} {r : Route} {head : List UInt8} (h : Head version r head)
    (rest : List UInt8) :
    head? (head ++ rest) = some (version, ⟨r.status, r.headers, [], .close⟩, rest) := by
  obtain ⟨line, fields, hstatus, hfields, -, rfl, -⟩ := h
  have hnotice : isNotice r.status = false := by
    rw [isNotice, decide_eq_false (Nat.not_lt_of_le hstatus.1), Bool.false_and]
  obtain ⟨first, hline, hfirst⟩ := status?_of_statusLine hstatus
  have hline := hline (fields ++ rest)
  have hfields := headers?_of_headerLines hfields rest
  rw [List.append_assoc, head?]
  split
  · rename_i h
    rw [hline] at h
    exact absurd h (by simp)
  · rename_i h
    rw [hline, Option.some.injEq, Prod.mk.injEq] at h
    obtain ⟨rfl, rfl⟩ := h
    split
    · rename_i hhead hrest
      rw [hfirst, Option.some.injEq, Prod.mk.injEq] at hhead
      rw [hfields, Option.some.injEq, Prod.mk.injEq] at hrest
      obtain ⟨rfl, rfl⟩ := hhead
      obtain ⟨rfl, rfl⟩ := hrest
      rw [if_neg (by simp [hnotice])]
    · rename_i hnone
      exact absurd hfields (hnone _ _ _ _ hfirst)

/-! ### Responses -/

/-- **The bytes that spell a response are read as that response, and of the bytes after it, which only
come where the response tells its own end, nothing is.** -/
theorem message?_of_spells {r : Route} {bytes rest : List UInt8} (h : Spells r bytes)
    (hrest : rest = [] ∨ r.delivered.isDelimited = true) :
    ∃ persists, message? (bytes ++ rest) = some ⟨r.delivered, persists, rest⟩ := by
  obtain ⟨version, head, sent, hhead, hsent, rfl⟩ := h
  rw [List.append_assoc, message?, head?_of_head hhead]
  rw [Route.delivered] at hrest ⊢
  -- a status that allows no body is not asked how its body ends
  by_cases hbody : r.hasBody = true
  · rw [if_pos hbody] at hsent hrest ⊢
    obtain ⟨ending, hending, hwith⟩ := withBody_of_carries hsent hrest
    have hbody : Route.hasBody ⟨r.status, r.headers, [], .close⟩ = true := hbody
    simp only [Option.bind_eq_bind, Option.bind_some, if_pos hbody, hending, hwith]
    exact ⟨_, rfl⟩
  · rw [if_neg hbody] at hsent hrest ⊢
    have hbody : ¬ Route.hasBody ⟨r.status, r.headers, [], .close⟩ = true := hbody
    obtain rfl := hsent
    simp only [Option.bind_eq_bind, Option.bind_some, if_neg hbody]
    exact ⟨_, rfl⟩

end Wire
end HttpGet
