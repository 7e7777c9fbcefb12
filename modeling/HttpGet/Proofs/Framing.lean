/-
The end of a body.

How a body ends is told by its length, by the end of the connection, or by chunks, and what the
headers of a response say decides which.  Here it is said which bytes carry a body in each of these
ways; none of it mentions the reader.  Whatever a chunk holds is taken by its size, so line feeds and
halves of characters in the data are of no account, and a body is put together as it was cut.  What
comes after a body that tells its end is left alone.
-/
import HttpGet.Proofs.Text.Segmentation
import HttpGet.Proofs.Url.Cutting
import HttpGet.Wire

namespace HttpGet.Wire

/-- The end of a line. -/
def lineEnd : List UInt8 := [carriageReturn, lineFeed]

/-- Whether bytes are the lines of headers, and the empty line after them. -/
inductive HeaderLines : (headers : List (List UInt8 × List UInt8)) → (sent : List UInt8) → Prop
  | nil : HeaderLines [] lineEnd
  | cons {name value sent : List UInt8} {headers : List (List UInt8 × List UInt8)}
      (hne : name ≠ []) (hname : ∀ b ∈ name, isNameByte b = true)
      (hvalue : ∀ b ∈ value, isValueByte b = true) (h : HeaderLines headers sent) :
      HeaderLines ((name, value) :: headers) (name ++ 0x3A :: value ++ lineEnd ++ sent)

/-- So many headers are read, in a head and in a trailer. -/
def headerLimit : Nat := 100

/-- Whether bytes are a line that tells a size, with an extension or without one. -/
def SizeLine (size : Nat) (extension line : List UInt8) : Prop :=
  ∃ digits, digits ≠ [] ∧ hexNumber? digits = some size ∧
    (extension = [] ∨ ∃ more, extension = Utf8.encode ";" ++ more) ∧
    (∀ b ∈ extension, isValueByte b = true) ∧
    line = Utf8.encode (String.ofList digits) ++ extension ++ lineEnd

/-- Whether bytes carry a body in chunks: each of them a line that tells its size, its data, and the
end of a line; a chunk without data is the last one, and a trailer comes after it.  Extensions and
trailer take so many bytes. -/
inductive Chunked : (extra : Nat) → (body sent : List UInt8) → Prop
  | last {extension line trailer : List UInt8} {headers : List (List UInt8 × List UInt8)}
      (h : SizeLine 0 extension line) (htrailer : HeaderLines headers trailer)
      (hcount : headers.length < headerLimit) :
      Chunked (extension.length + trailer.length) [] (line ++ trailer)
  | chunk {extra : Nat} {data extension line body sent : List UInt8} (hdata : data ≠ [])
      (h : SizeLine data.length extension line) (hsent : Chunked extra body sent) :
      Chunked (extension.length + extra) (data ++ body) (line ++ (data ++ (lineEnd ++ sent)))

/-- So many bytes of extensions and trailers are read. -/
def extraLimit : Nat := 2 ^ 14

/-- So long may an announced length be. -/
def lengthLimit : Nat := 2 ^ 64 - 3

/-- Whether the headers of a response announce that its body ends in some way. -/
def Announces (version : Version) (r : Route) : Ending → Prop
  | .length n => values "transfer-encoding" r = [] ∧ values "content-length" r ≠ [] ∧
      (∀ value ∈ values "content-length" r, decimal? value = some n) ∧ n ≤ lengthLimit
  | .close => values "transfer-encoding" r = [] ∧ values "content-length" r = []
  | .chunked => version = .http11 ∧
      ∃ coding, (values "transfer-encoding" r).getLast? = some coding ∧ isWord "chunked" coding

/-- Whether bytes carry the body of a response as its framing says. -/
def Carries (version : Version) (r : Route) (sent : List UInt8) : Prop :=
  match r.framing with
  | .length => Announces version r (.length r.body.length) ∧ sent = r.body
  | .close => Announces version r .close ∧ sent = r.body
  | .chunked => Announces version r .chunked ∧ ∃ extra < extraLimit, Chunked extra r.body sent
  | .short => ∃ n, Announces version r (.length n) ∧ r.body.length < n ∧ sent = r.body

/-! ### Lines -/

theorem line?_append {line : List UInt8} (h : lineFeed ∉ line) (rest : List UInt8) :
    line? (line ++ lineEnd ++ rest) = some (line, rest) := by
  have hcut : cutAt (· = lineFeed) (line ++ lineEnd ++ rest) = (line ++ [carriageReturn], some rest) := by
    have hpart : ∀ b ∈ line ++ [carriageReturn], decide (b = lineFeed) = false := by
      intro b hb
      rw [decide_eq_false_iff_not]
      rintro rfl
      rcases List.mem_append.mp hb with hb | hb
      · exact h hb
      · exact absurd hb (by decide)
    have hsplit : line ++ lineEnd ++ rest = (line ++ [carriageReturn]) ++ lineFeed :: rest := by
      simp [lineEnd]
    rw [hsplit, cutAt_append_cons hpart (by decide)]
  rw [line?, hcut]
  simp

theorem lineFeed_notMem_of_value {value : List UInt8} (h : ∀ b ∈ value, isValueByte b = true) :
    lineFeed ∉ value :=
  fun hb => absurd (h lineFeed hb) (by decide)

/-- No line feed is among the digits of a number. -/
theorem lineFeed_notMem_encode {digits : List Char} {n : Nat} (h : hexNumber? digits = some n) :
    lineFeed ∉ Utf8.encode (String.ofList digits) := by
  intro hmem
  rw [Utf8.encode, String.toList_ofList] at hmem
  obtain ⟨c, hc, hmem⟩ := List.mem_flatMap.mp hmem
  obtain ⟨m, hm⟩ := hexValue_of_hexNumber h c hc
  have hascii : c.toNat < 0x80 :=
    Nat.lt_of_le_of_lt (UInt32.le_iff_toNat_le.mp (le_of_hexValue hm)) (by decide)
  rw [Utf8.encode_of_lt hascii, List.mem_singleton] at hmem
  have hcode : c.toNat = 0x0A := by
    have h := congrArg UInt8.toNat hmem
    rw [UInt8.toNat_ofNat_of_lt' (Nat.lt_trans hascii (by decide))] at h
    exact h.symm
  have hnone : hexValue? (Char.ofNat 0x0A) = none := by decide
  rw [← Char.ofNat_toNat c, hcode, hnone] at hm
  exact absurd hm (by simp)

/-- The digits of a line that begins with them and may have an extension. -/
def sizeDigits (line : List UInt8) : List Char :=
  (Utf8.decodeLossy line).toList.takeWhile fun c => (hexValue? c).isSome

/-- A line that tells a size is read by its digits. -/
theorem SizeLine.line? {size : Nat} {extension line : List UInt8} (h : SizeLine size extension line)
    (rest : List UInt8) :
    ∃ bytes, Wire.line? (line ++ rest) = some (bytes, rest) ∧ sizeDigits bytes ≠ [] ∧
      hexNumber? (sizeDigits bytes) = some size := by
  obtain ⟨digits, hne, hsize, hextension, hplain, rfl⟩ := h
  have hdigits : ∀ c ∈ digits, (hexValue? c).isSome = true := by
    intro c hc
    obtain ⟨m, hm⟩ := hexValue_of_hexNumber hsize c hc
    rw [hm]
    rfl
  have hbytes : lineFeed ∉ Utf8.encode (String.ofList digits) ++ extension := by
    rw [List.mem_append, not_or]
    exact ⟨lineFeed_notMem_encode hsize, lineFeed_notMem_of_value hplain⟩
  have hextra : (Utf8.decodeLossy extension).toList.takeWhile (fun c => (hexValue? c).isSome) = [] := by
    rcases hextension with rfl | ⟨more, rfl⟩
    · rw [Utf8.decodeLossy, Utf8.segments]
      rfl
    · rw [Utf8.decodeLossy_encode_append, String.toList_append]
      exact List.takeWhile_cons_of_neg (by decide)
  have hread : sizeDigits (Utf8.encode (String.ofList digits) ++ extension) = digits := by
    rw [sizeDigits, Utf8.decodeLossy_encode_append, String.toList_append, String.toList_ofList,
      List.takeWhile_append_of_pos hdigits, hextra, List.append_nil]
  exact ⟨_, line?_append hbytes rest, hread.symm ▸ hne, hread.symm ▸ hsize⟩

/-! ### Chunks -/

/-- A line of a header is not empty and has no end of a line in it. -/
theorem header_line {name value : List UInt8} (hname : ∀ b ∈ name, isNameByte b = true)
    (hvalue : ∀ b ∈ value, isValueByte b = true) : lineFeed ∉ name ++ 0x3A :: value := by
  simp only [List.mem_append, List.mem_cons, not_or]
  exact ⟨fun hb => absurd (hname lineFeed hb) (by decide), by decide,
    lineFeed_notMem_of_value hvalue⟩

theorem afterTrailer?_of_line {line more : List UInt8} (hline : lineFeed ∉ line) :
    afterTrailer? (line ++ lineEnd ++ more) =
      if line.isEmpty then some more else afterTrailer? more := by
  rw [afterTrailer?]
  split
  · rename_i h
    rw [line?_append hline] at h
    exact absurd h (by simp)
  · rename_i h
    rw [line?_append hline, Option.some.injEq, Prod.mk.injEq] at h
    obtain ⟨rfl, rfl⟩ := h
    rfl

theorem afterTrailer?_of_headerLines {headers : List (List UInt8 × List UInt8)} {sent : List UInt8}
    (h : HeaderLines headers sent) (rest : List UInt8) : afterTrailer? (sent ++ rest) = some rest := by
  induction h with
  | nil => exact afterTrailer?_of_line List.not_mem_nil
  | cons hne hname hvalue h ih =>
      rw [List.append_assoc, afterTrailer?_of_line (header_line hname hvalue), if_neg (by simp), ih]

/-- What is read after a line that tells a size: the trailer, or so much data and what comes after
it. -/
theorem chunks_of_line {bytes line rest : List UInt8} {size : Nat}
    (hline : line? bytes = some (line, rest)) (hne : sizeDigits line ≠ [])
    (hsize : hexNumber? (sizeDigits line) = some size) :
    chunks bytes = if size = 0 then ([], afterTrailer? rest) else
      match line? (rest.drop size) with
      | none => (rest.take size, none)
      | some (_, after) => (rest.take size ++ (chunks after).1, (chunks after).2) := by
  have hempty : (sizeDigits line).isEmpty = false := by simpa using hne
  unfold sizeDigits at hsize hempty
  rw [chunks]
  split
  · rename_i h
    rw [hline] at h
    exact absurd h (by simp)
  · rename_i h
    rw [hline, Option.some.injEq, Prod.mk.injEq] at h
    obtain ⟨rfl, rfl⟩ := h
    cases size with
    | zero => simp only [hempty, hsize, if_true]
    | succ size =>
        simp only [hempty, hsize, if_neg (Nat.succ_ne_zero size)]
        split
        · rename_i h
          rw [h]
        · rename_i h
          rw [h]

/-- **A body that is sent in chunks is put together as it was cut, and nothing after it is
touched.** -/
theorem chunks_of_chunked {extra : Nat} {body sent : List UInt8} (h : Chunked extra body sent)
    (rest : List UInt8) : chunks (sent ++ rest) = (body, some rest) := by
  induction h with
  | @last extension line trailer headers h htrailer =>
      obtain ⟨bytes, hline, hne, hsize⟩ := h.line? (trailer ++ rest)
      rw [List.append_assoc, chunks_of_line hline hne hsize, if_pos rfl,
        afterTrailer?_of_headerLines htrailer]
  | @chunk extra data extension line body sent hdata h hsent ih =>
      obtain ⟨bytes, hline, hne, hsize⟩ := h.line? (data ++ (lineEnd ++ (sent ++ rest)))
      have hlength : data.length ≠ 0 := by simpa using hdata
      have hend : Wire.line? ((data ++ (lineEnd ++ (sent ++ rest))).drop data.length) =
          some ([], sent ++ rest) := by
        rw [List.drop_left]
        exact line?_append List.not_mem_nil (sent ++ rest)
      have hassoc : line ++ (data ++ (lineEnd ++ sent)) ++ rest =
          line ++ (data ++ (lineEnd ++ (sent ++ rest))) := by
        simp only [List.append_assoc]
      rw [hassoc, chunks_of_line hline hne hsize, if_neg hlength, hend, List.take_left]
      dsimp only
      rw [ih]

/-- Two chunks, cut inside a character; the first has a line feed in its data. -/
example : chunks (Utf8.encode "3;x=y\r\na\n" ++ [0xC3] ++ Utf8.encode "\r\n1\r\n" ++ [0xA9] ++
    Utf8.encode "\r\n0\r\n\r\nHTTP") = (Utf8.encode "a\né", some (Utf8.encode "HTTP")) := by
  decide +kernel

/-! ### Bodies -/

/-- An announcement is read. -/
theorem ending?_of_announces {version : Version} {r : Route} {ending : Ending}
    (h : Announces version r ending) : ending? version r = some ending := by
  cases ending with
  | length n =>
      obtain ⟨hplain, hne, hlengths, -⟩ := h
      obtain ⟨length, lengths, hvalues⟩ := List.exists_cons_of_ne_nil hne
      rw [hvalues] at hlengths
      obtain ⟨hlength, hall⟩ := List.forall_mem_cons.mp hlengths
      simp only [ending?, hplain, hvalues, List.getLast?_nil, hlength, Option.bind_eq_bind,
        Option.bind_some]
      exact if_pos (List.all_eq_true.mpr fun value hvalue => decide_eq_true (hall value hvalue))
  | close =>
      obtain ⟨hplain, hnone⟩ := h
      simp only [ending?, hplain, hnone, List.getLast?_nil]
  | chunked =>
      obtain ⟨rfl, coding, hlast, hcoding⟩ := h
      simp only [ending?, hlast, if_pos hcoding]

/-- **The bytes that carry the body of a response are read as that body, and of the bytes after it,
which only come where the response has told its end, nothing is.** -/
theorem withBody_of_carries {version : Version} {r : Route} {sent rest : List UInt8}
    (h : Carries version r sent) (hrest : rest = [] ∨ r.isDelimited = true) :
    ∃ ending, ending? version ⟨r.status, r.headers, [], .close⟩ = some ending ∧
      withBody ⟨r.status, r.headers, [], .close⟩ (sent ++ rest) ending = (r, rest) := by
  -- what is announced depends on the headers alone
  have hread : ∀ ending, Announces version r ending →
      ending? version ⟨r.status, r.headers, [], .close⟩ = some ending :=
    fun ending h => ending?_of_announces h
  obtain ⟨status, headers, body, framing⟩ := r
  cases framing with
  | length =>
      obtain ⟨hlength, rfl⟩ := h
      refine ⟨_, hread _ hlength, ?_⟩
      simp [withBody]
  | close =>
      obtain ⟨hclose, rfl⟩ := h
      obtain rfl : rest = [] := hrest.resolve_right (by simp [Route.isDelimited])
      refine ⟨_, hread _ hclose, ?_⟩
      rw [withBody, List.append_nil]
  | chunked =>
      obtain ⟨hchunks, extra, -, hsent⟩ := h
      refine ⟨_, hread _ hchunks, ?_⟩
      rw [withBody, chunks_of_chunked hsent rest]
  | short =>
      obtain ⟨n, hlength, hless, rfl⟩ := h
      obtain rfl : rest = [] := hrest.resolve_right (by simp [Route.isDelimited])
      refine ⟨_, hread _ hlength, ?_⟩
      rw [withBody, List.append_nil, if_neg (Nat.not_le_of_lt hless),
        List.take_of_length_le (Nat.le_of_lt hless), List.drop_of_length_le (Nat.le_of_lt hless)]

end HttpGet.Wire
