/-
The text of a body, from the bytes of the last response.

The text that a GET delivers depends on the bytes of the body and on nothing else: not on the
network or the redirects before, not on the status or the headers, not on what the client has fetched
before, and not on how the body is sent, as long as it comes to its end.  It says of each byte where
it went, since the bytes are cut into characters and ill-formed parts in one way only, and nothing
else is decoded: no byte order mark is taken off, and no charset is looked at.

That the framing is of no account is shown on the bytes that servers send.  A GET over them is one
over the network that they serve, and there the redirects lead to the last response.
-/
import HttpGet.Proofs.Independence

namespace HttpGet

/-! ### The text of some bytes -/

/-- What it is to be the text of some bytes.  Each character of the text stands for one part of the
bytes, so every well-formed character is there, once and in its place. -/
structure Utf8.IsTextOf (text : String) (bytes : List UInt8) : Prop where
  segmentation : ∃ parts, (∀ parts', IsSegmentation parts' bytes ↔ parts' = parts) ∧
    text.toList = parts.map Part.char
  wellFormed : ∀ s, bytes = encode s → text = s
  around : ∀ before s after, s ≠ "" → bytes = before ++ encode s ++ after →
    text = decodeLossy before ++ s ++ decodeLossy after
  again : decodeLossy (encode text) = text

/-- Some bytes have one text, and decoding makes it. -/
theorem Utf8.isTextOf_iff {text : String} {bytes : List UInt8} :
    IsTextOf text bytes ↔ text = decodeLossy bytes := by
  obtain ⟨parts, hparts, -⟩ := exists_segmentation bytes
  have hdecoded := decodeLossy_of_isSegmentation hparts
  constructor
  · rintro ⟨⟨parts', hparts', htext⟩, -, -, -⟩
    rw [hdecoded, (hparts' parts).mp hparts, ← htext, String.ofList_toList]
  · rintro rfl
    refine ⟨⟨parts, ?_, ?_⟩, ?_, ?_, decodeLossy_encode _⟩
    · intro parts'
      constructor
      · intro h
        exact h.unique hparts
      · rintro rfl
        exact hparts
    · rw [hdecoded, String.toList_ofList]
    · rintro s rfl
      exact decodeLossy_encode s
    · rintro before s after hs rfl
      exact decodeLossy_around hs before after

namespace Network

/-! ### The last response -/

/-- Whether the redirects from a URI end at a response before there are too many of them. -/
def EndsAt (net : Network) (uri : String) (route : Route) : Prop :=
  ∃ url urls last, Url.parse? uri = some url ∧ url.shown.isRequestable = true ∧
    net.Trail url.forRequest last urls ∧ urls.length ≤ Exchange.redirectLimit + 1 ∧ net.Final last route

/-- The response at the end of a trail arrives, if the trail is not too long. -/
theorem arrival_of_trail {net : Network} (first : Url) {url last : Url} {urls : List Url}
    {left : Nat} {route : Route} (h : net.Trail url last urls) (hlength : urls.length ≤ left + 1)
    (hfinal : net.Final last route) :
    (net.follow first left url).arrival = .ok (arrivalAt last route) := by
  have hurl : url.isHttp = true := h.http url (List.mem_of_head? h.head)
  induction urls generalizing url left with
  | nil => exact absurd h.head (by simp)
  | cons u urls ih =>
      cases urls with
      | nil =>
          obtain rfl : u = url := by simpa using h.head
          obtain rfl : u = last := by simpa using h.getLast
          obtain ⟨hroute, htarget⟩ := (final_iff hurl).mp hfinal
          have hended : Progress.after first left u (net.answer u) =
              .ended (.ok (arrivalAt u route)) := by
            simp only [Progress.after, hroute, htarget, arrivalAt]
          rw [follow_of_ended hended]
      | cons v urls =>
          obtain ⟨hredirects, htrail⟩ := h.of_cons_cons
          obtain ⟨route', hroute, htarget⟩ := (redirects_iff hurl).mp hredirects
          have hv : v.isHttp = true := htrail.http v List.mem_cons_self
          obtain ⟨left, rfl⟩ : ∃ left', left = left' + 1 :=
            Nat.exists_eq_add_one.mpr (Nat.lt_of_lt_of_le (by simp) (Nat.le_of_succ_le_succ hlength))
          have hafter : Progress.after first (left + 1) url (net.answer url) = .redirected left v := by
            simp only [Progress.after, hroute, htarget, if_pos hv]
          rw [follow_of_redirected hafter]
          exact ih htrail (Nat.le_of_succ_le_succ hlength) hv

/-- The response at which the redirects from a URI end arrives. -/
theorem response_of_endsAt {net : Network} {uri : String} {route : Route}
    (h : net.EndsAt uri route) :
    (net.exchange .up uri).response =
      route.receive.map fun text => ⟨route.status, route.contentType, text⟩ := by
  obtain ⟨url, urls, last, hparse, hsend, htrail, hlength, hfinal⟩ := h
  have hrequested := Exchange.requested_eq_ok_iff.mpr ⟨hparse, hsend⟩
  have harrival := arrival_of_trail url.shown htrail hlength hfinal
  rw [exchange_of_requested net hrequested]
  simp only [Exchange.response, harrival, arrivalAt]
  cases route.receive with
  | error e => rfl
  | ok text => rfl

end Network

namespace Servers

/-- What a GET over servers comes to, after any others, is decided by the response at which its
redirects over the network end. -/
theorem get_of_endsAt {s : Servers} {net : Network} {uri : String} {route : Route}
    (hserves : s.Serves net) (hends : net.EndsAt uri route) (pooling : Pooling Unit)
    (earlier : List String) :
    ((s.transport pooling).get ((s.transport pooling).fetchAll (default, []) earlier).2 uri).1 =
      (route.receive.map fun text => ⟨route.status, route.contentType, text⟩).mapError .transport := by
  obtain ⟨client, hearlier, hclean⟩ :=
    s.exists_fetchAll_of_clean pooling Client.clean_default [] earlier
  rw [hearlier]
  obtain ⟨client', hget, -⟩ := s.exists_get_of_clean pooling hclean
    ([] ++ earlier.flatMap fun uri => (s.result uri).2) uri
  rw [hget, hserves.issued_eq, Network.response_of_endsAt hends]

/-- **The bytes of a body have one text, and a GET that ends at a response with this body delivers
it: over any network and the bytes of any servers that serve it, after any redirects and any other
GETs of the client, and whichever way the body is sent.  Where the body ends before the length that was
announced, the GET fails.** -/
theorem get_delivers_text (body : List UInt8) :
    ∃ text, Utf8.IsTextOf text body ∧
      ∀ {s : Servers} {net : Network} {uri : String} {route : Route} (pooling : Pooling Unit)
        (earlier : List String), s.Serves net → net.EndsAt uri route → route.body = body →
        route.status ≠ 204 → route.status ≠ 304 →
        (route.framing ∈ [.length, .close, .chunked] →
          ((s.transport pooling).get
            ((s.transport pooling).fetchAll (default, []) earlier).2 uri).1 =
            .ok ⟨route.status, route.contentType, text⟩) ∧
        (route.framing = .short →
          ((s.transport pooling).get
            ((s.transport pooling).fetchAll (default, []) earlier).2 uri).1 =
            .error (.transport .incompleteBody)) := by
  refine ⟨Utf8.decodeLossy body, Utf8.isTextOf_iff.mpr rfl, ?_⟩
  rintro s net uri route pooling earlier hserves hends rfl h204 h304
  have hbody : route.hasBody = true := by simp [Route.hasBody, h204, h304]
  rw [get_of_endsAt hserves hends, Route.receive, if_pos hbody]
  constructor
  · intro hframing
    have hcomplete : route.framing ≠ .short := by
      intro hshort
      rw [hshort] at hframing
      exact absurd hframing (by decide)
    rw [if_neg hcomplete]
    rfl
  · intro hshort
    rw [if_pos hshort]
    rfl

/-- The URL `http://a.test/` with a path of one segment. -/
def pageUrl (segment : String) : Url :=
  ⟨"http".toList, some ⟨default, .name "a.test".toList, none⟩, .segments [segment.toList], none, none⟩

/-- A byte order mark, a letter, the beginning of a character, a surrogate, a character of four
bytes, and another beginning. -/
def mixedBytes : List UInt8 :=
  [0xEF, 0xBB, 0xBF, 0x61, 0xE2, 0x82, 0xED, 0xA0, 0x80, 0xF0, 0x9F, 0x98, 0x80, 0xC3]

/-- The headers of a reply with those bytes, whose end they tell in some way. -/
def mixedHeaders : Framing → List (List UInt8 × List UInt8)
  | .length => [(Utf8.encode "Content-Length", Utf8.encode " 14")]
  | .close => []
  | .chunked => [(Utf8.encode "Transfer-Encoding", Utf8.encode " Chunked")]
  | .short => [(Utf8.encode "Content-Length", Utf8.encode " 21")]

/-- A line with the digits of a size alone. -/
def sizeLine (digits : String) : List UInt8 := Utf8.encode digits ++ [] ++ Wire.lineEnd

/-- What is sent of those bytes.  The chunks are cut inside a character. -/
def mixedSent : Framing → List UInt8
  | .chunked => sizeLine "B" ++ (mixedBytes.take 11 ++ (Wire.lineEnd ++
      (sizeLine "3" ++ (mixedBytes.drop 11 ++ (Wire.lineEnd ++
        (sizeLine "0" ++ Wire.lineEnd))))))
  | _ => mixedBytes

theorem carries_mixedSent (framing : Framing) :
    Wire.Carries .http11 ⟨200, mixedHeaders framing, mixedBytes, framing⟩ (mixedSent framing) := by
  have hsize : ∀ {size : Nat} (digits : String), digits.toList ≠ [] →
      hexNumber? digits.toList = some size → Wire.SizeLine size [] (sizeLine digits) :=
    fun digits hne hdigits => ⟨digits.toList, hne, hdigits, Or.inl rfl, by simp,
      by rw [String.ofList_toList, sizeLine]⟩
  cases framing with
  | length =>
      refine ⟨⟨?_, ?_, ?_, ?_⟩, rfl⟩
      all_goals decide +kernel
  | close =>
      refine ⟨⟨?_, ?_⟩, rfl⟩
      all_goals decide +kernel
  | short =>
      refine ⟨21, ⟨?_, ?_, ?_, ?_⟩, by decide, rfl⟩
      all_goals decide +kernel
  | chunked =>
      refine ⟨⟨rfl, Utf8.encode "Chunked", by decide +kernel, by decide +kernel⟩, 2, by decide, ?_⟩
      have hlast : Wire.Chunked 2 [] (sizeLine "0" ++ Wire.lineEnd) :=
        .last (hsize "0" (by decide) (by decide)) .nil (by decide)
      have hsecond := @Wire.Chunked.chunk _ (mixedBytes.drop 11) _ _ _ _ (by decide)
        (hsize "3" (by decide) (by decide)) hlast
      exact @Wire.Chunked.chunk _ (mixedBytes.take 11) _ _ _ _ (by decide)
        (hsize "B" (by decide) (by decide)) hsecond

/-- A page that redirects to another. -/
def movedRoute : Route :=
  ⟨302, [(Utf8.encode "Location", Utf8.encode "y"),
    (Utf8.encode "Content-Length", Utf8.encode "0")], [], .length⟩

/-- A page that has those bytes. -/
def mixedRoute (framing : Framing) : Route := ⟨200, mixedHeaders framing, mixedBytes, framing⟩

/-- A network in which one page redirects to the other. -/
def mixedNetwork (framing : Framing) : Network :=
  [("http://a.test/x", movedRoute), ("http://a.test/y", mixedRoute framing)]

/-- Servers of that network. -/
def mixedServers (framing : Framing) : Servers :=
  [("http://a.test/x", ⟨Wire.writeHead movedRoute.status movedRoute.headers, false⟩),
    ("http://a.test/y", ⟨Wire.writeHead 200 (mixedHeaders framing) ++ mixedSent framing, true⟩)]

theorem serves_mixedServers (framing : Framing) :
    (mixedServers framing).Serves (mixedNetwork framing) := by
  refine .cons _ ?moved (.cons _ ?mixed .nil)
  case moved =>
    have hhead : Wire.Head .http11 movedRoute (Wire.writeHead movedRoute.status movedRoute.headers) :=
      Wire.head_writeHead (by decide) (by decide) (by decide +kernel) (by decide)
        (by decide +kernel)
    have hcarries : Wire.Carries .http11 movedRoute [] := by
      refine ⟨⟨?_, ?_, ?_, ?_⟩, rfl⟩
      all_goals decide +kernel
    exact ⟨⟨_, [], ⟨_, _, [], hhead, hcarries, rfl⟩, by rw [List.append_nil, List.append_nil],
      Or.inl rfl⟩, Or.inr rfl⟩
  case mixed =>
    have hhead : Wire.Head .http11 (mixedRoute framing)
        (Wire.writeHead 200 (mixedHeaders framing)) := by
      refine Wire.head_writeHead (r := mixedRoute framing) (Nat.le_refl 200)
        (by decide : 200 ≤ 999) ?_ ?_ ?_
      all_goals cases framing <;> decide +kernel
    exact ⟨⟨_, [], ⟨_, _, _, hhead, carries_mixedSent framing, rfl⟩, by rw [List.append_nil],
      Or.inl rfl⟩, Or.inl rfl⟩

theorem endsAt_mixedNetwork (framing : Framing) :
    (mixedNetwork framing).EndsAt "http://a.test/x" (mixedRoute framing) := by
  have hhttp : ∀ segment, (pageUrl segment).isHttp = true := fun segment => rfl
  have hredirects : (mixedNetwork framing).Redirects (pageUrl "x") (pageUrl "y") := by
    refine ⟨rfl, movedRoute, "y", pageUrl "y", rfl, ?_, ⟨_, rfl, ?_⟩, ?_, ?_, ?_⟩
    all_goals decide +kernel
  refine ⟨pageUrl "x", [pageUrl "x", pageUrl "y"], pageUrl "y", ?_, ?_,
    (Network.Trail.single (hhttp "y")).cons (hhttp "x") hredirects, by decide,
    (Network.final_iff (hhttp "y")).mpr ⟨?_, ?_⟩⟩
  · decide +kernel
  · decide +kernel
  · cases framing <;> decide +kernel
  · cases framing <;> decide +kernel

/-- A GET of bytes that are no UTF-8, behind a redirect and after other GETs: with a length, in
chunks, and cut short. -/
theorem get_delivers_mixedBytes :
    (((mixedServers .length).transport default).get
        (((mixedServers .length).transport default).fetchAll (default, [])
          ["http://b.test/", "http://a.test/x"]).2 "http://a.test/x").1 =
        .ok ⟨200, none, "\uFEFFa\uFFFD\uFFFD\uFFFD\uFFFD😀\uFFFD"⟩ ∧
      (((mixedServers .chunked).transport default).get
        (((mixedServers .chunked).transport default).fetchAll (default, [])
          ["http://b.test/", "http://a.test/x"]).2 "http://a.test/x").1 =
        .ok ⟨200, none, "\uFEFFa\uFFFD\uFFFD\uFFFD\uFFFD😀\uFFFD"⟩ ∧
      (((mixedServers .short).transport default).get
        (((mixedServers .short).transport default).fetchAll (default, [])
          ["http://b.test/", "http://a.test/x"]).2 "http://a.test/x").1 =
        .error (.transport .incompleteBody) := by
  obtain ⟨text, htext, hget⟩ := get_delivers_text mixedBytes
  have hdecoded : text = "\uFEFFa\uFFFD\uFFFD\uFFFD\uFFFD😀\uFFFD" := by
    rw [Utf8.isTextOf_iff.mp htext]
    decide +kernel
  have hget := fun framing => hget default ["http://b.test/", "http://a.test/x"]
    (serves_mixedServers framing) (endsAt_mixedNetwork framing) rfl (by decide : 200 ≠ 204)
    (by decide : 200 ≠ 304)
  exact ⟨hdecoded ▸ (hget .length).1 (by decide), hdecoded ▸ (hget .chunked).1 (by decide),
    (hget .short).2 rfl⟩

end Servers
end HttpGet
