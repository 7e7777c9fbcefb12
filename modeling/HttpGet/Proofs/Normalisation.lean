/-
What of a URI the network sees.

The text that the first request of a GET asks for is a URI in its own right, and stands for what
the GET has asked for: reading it gives the same URL without user and fragment.  What follows,
redirects and all, depends on that URL alone; the URI is otherwise only named in errors.  So
a GET for that text sends the same requests and comes to the same response.
-/
import HttpGet.Proofs.Redirection
import HttpGet.Proofs.Url.Normal

namespace HttpGet

/-! ### Exchanges that agree -/

namespace Exchange

/-- Whether two exchanges have asked for the same and agree on what has arrived, if anything. -/
structure Agrees (e e' : Exchange) : Prop where
  requests : e.requests = e'.requests
  arrival : ∀ a, e.arrival = .ok a ↔ e'.arrival = .ok a

variable {e e' : Exchange}

theorem Agrees.after (h : e.Agrees e') (request : String) :
    (e.after request).Agrees (e'.after request) :=
  ⟨congrArg (request :: ·) h.requests, h.arrival⟩

theorem response_eq_ok_iff_arrival {r : Response} : e.response = .ok r ↔
    ∃ a body, e.arrival = .ok a ∧ a.body = .ok body ∧ r = ⟨a.status, a.contentType, body⟩ := by
  rw [response]
  cases harrival : e.arrival with
  | error error => simp
  | ok a =>
      cases hbody : a.body with
      | error error => simp [hbody]
      | ok body => simp [hbody, eq_comm]

theorem Agrees.response_eq_ok_iff (h : e.Agrees e') (r : Response) :
    e.response = .ok r ↔ e'.response = .ok r := by
  simp only [response_eq_ok_iff_arrival, h.arrival]

end Exchange

/-! ### Redirects -/

/-- The URL that a GET was issued for is only named in an error. -/
theorem Progress.after_first (first first' : Url) (left : Nat) (url : Url)
    (answer : Option Route) :
    (∃ left' next, after first left url answer = .redirected left' next ∧ left' < left ∧
      after first' left url answer = .redirected left' next) ∨
    ∃ arrival arrival', after first left url answer = .ended arrival ∧
      after first' left url answer = .ended arrival' ∧
      ∀ a, arrival = .ok a ↔ arrival' = .ok a := by
  have hredirected : ∀ {left' route next}, left = left' + 1 → answer = some route →
      url.redirectTarget? route = some next → next.isHttp → ∀ first,
      after first left url answer = .redirected left' next := by
    rintro left' route next rfl rfl htarget hnext first
    simp only [after, htarget, if_pos hnext]
  obtain ⟨arrival, hended, hok⟩ | ⟨left', route, next, hleft, hroute, htarget, hnext, hafter⟩ :=
    after_cases first left url answer
  · obtain ⟨arrival', hended', hok'⟩ | ⟨_, _, _, hleft, hroute, htarget, hnext, -⟩ :=
      after_cases first' left url answer
    · exact Or.inr ⟨arrival, arrival', hended, hended', fun a => (hok a).trans (hok' a).symm⟩
    · rw [hredirected hleft hroute htarget hnext first] at hended
      exact absurd hended (by simp)
  · exact Or.inl ⟨left', next, hafter, left_lt_of_after hafter,
      hredirected hleft hroute htarget hnext first'⟩

namespace Network

/-- Where redirects lead does not depend on the URL that a GET was issued for. -/
theorem follow_agrees (net : Network) (first first' : Url) (left : Nat) (url : Url) :
    (net.follow first left url).Agrees (net.follow first' left url) := by
  induction left using Nat.strongRecOn generalizing url with
  | ind left ih =>
      obtain ⟨left', next, hafter, hleft, hafter'⟩ | ⟨arrival, arrival', hended, hended', hok⟩ :=
        Progress.after_first first first' left url (net.answer url)
      · rw [follow_of_redirected hafter, follow_of_redirected hafter']
        exact (ih left' hleft next).after url.requestLine
      · rw [follow_of_ended hended, follow_of_ended hended']
        exact ⟨rfl, hok⟩

end Network

/-! ### What is asked for -/

namespace Url

theorem utf8ByteSize_ofList_le {s t : List Char} (h : List.Sublist s t) :
    (String.ofList s).utf8ByteSize ≤ (String.ofList t).utf8ByteSize := by
  have hcons : ∀ (c : Char) (s : List Char), (String.ofList (c :: s)).utf8ByteSize =
      (String.ofList [c]).utf8ByteSize + (String.ofList s).utf8ByteSize := fun c s => by
    rw [← String.utf8ByteSize_append, ← String.ofList_append, List.singleton_append]
  induction h with
  | slnil => exact Nat.le_refl _
  | cons c _ ih =>
      rw [hcons]
      exact Nat.le_add_left_of_le ih
  | @cons_cons l₁ l₂ c _ ih =>
      rw [hcons c l₁, hcons c l₂]
      exact Nat.add_le_add_left ih _

theorem sublist_writeBeforeFragment (u : Url) :
    List.Sublist u.withoutUser.writeBeforeFragment u.writeBeforeFragment := by
  obtain ⟨scheme, authority, path, query, fragment⟩ := u
  cases authority with
  | none => exact List.Sublist.refl _
  | some a =>
      have huser : List.Sublist ({ a with user := default } : Authority).write a.write :=
        ((List.nil_sublist _).append_right a.host.write).append_right (writePort a.port)
      have hmain := (huser.append_left ['/', '/']).append_right path.write
      exact (hmain.append_left (scheme ++ [':'])).append_right (writePart '?' query)

theorem write_forRequest (u : Url) :
    u.forRequest.write = String.ofList u.withoutUser.writeBeforeFragment := by
  rw [write]
  exact congrArg String.ofList (List.append_nil _)

/-- A URL is shown as it is or without its user. -/
theorem shown_eq_or (u : Url) : u.shown = u ∨ u.shown = u.withoutUser := by
  rw [shown]
  split
  · exact Or.inl rfl
  · split
    · exact Or.inr rfl
    · exact Or.inl rfl

/-- What is asked for has no user to be hidden. -/
theorem shown_forRequest (u : Url) : u.forRequest.shown = u.forRequest := by
  obtain ⟨scheme, authority, path, query, fragment⟩ := u
  cases authority with
  | none => rfl
  | some a =>
      have hempty : isUtf8 [] = true := by simp [isUtf8, Percent.decode, Utf8.decode?, Utf8.segments]
      have hshown : (isUtf8 [] && (!([] : List Char).isEmpty || isUtf8 [])) = true := by
        rw [hempty]
        rfl
      exact if_pos hshown

/-- What is asked for has no more text than the URL that is shown. -/
theorem utf8ByteSize_forRequest (u : Url) :
    u.forRequest.write.utf8ByteSize ≤ u.shown.write.utf8ByteSize := by
  rw [write_forRequest]
  apply utf8ByteSize_ofList_le
  obtain hshown | hshown := u.shown_eq_or
  · rw [hshown]
    exact u.sublist_writeBeforeFragment.trans (List.sublist_append_left _ _)
  · rw [hshown]
    exact List.sublist_append_left _ _

theorem scheme_shown (u : Url) : u.shown.scheme = u.scheme := by
  obtain hshown | hshown := u.shown_eq_or
  · rw [hshown]
  · rw [hshown]
    rfl

theorem isHttp_shown (u : Url) : u.shown.isHttp = u.isHttp := by
  rw [isHttp, isHttp, scheme_shown]

/-- What a URL with a host has to be so that it can be asked for. -/
theorem isRequestable_iff {u : Url} {host : Host} (h : u.authority.map (·.host) = some host) :
    u.isRequestable = true ↔ u.isHttp = true ∧ u.write.utf8ByteSize ≤ lengthLimit ∧
      u.scheme.length ≤ schemeLimit ∧ isSendable host = true := by
  obtain ⟨a, ha, rfl⟩ := Option.map_eq_some_iff.mp h
  simp only [isRequestable, isNameable, ha, Bool.and_eq_true, decide_eq_true_eq]

/-- Where a URL can be asked for, so can what is asked for. -/
theorem isRequestable_forRequest {u : Url} {a : Authority} (ha : u.authority = some a)
    (h : u.shown.isRequestable = true) : u.forRequest.isRequestable = true := by
  have hhost : u.shown.authority.map (·.host) = some a.host := by
    obtain hshown | hshown := u.shown_eq_or <;> simp [hshown, withoutUser, ha]
  obtain ⟨hhttp, hsize, hlength, hsendable⟩ := (isRequestable_iff hhost).mp h
  have hhost' : u.forRequest.authority.map (·.host) = some a.host := by
    simp [forRequest, withoutUser, ha]
  rw [isHttp_shown] at hhttp
  rw [scheme_shown] at hlength
  exact (isRequestable_iff hhost').mpr
    ⟨hhttp, Nat.le_trans u.utf8ByteSize_forRequest hsize, hlength, hsendable⟩

end Url

namespace Network

/-- What is asked for is read back as it was asked for. -/
theorem requested_target {uri : String} {url : Url} (h : Exchange.requested uri = .ok url)
    (hscheme : url.scheme = "http".toList) (hsettled : url.HostIsSettled) :
    Exchange.requested url.target = .ok url.forRequest := by
  obtain ⟨hparse, hsend⟩ := Exchange.requested_eq_ok_iff.mp h
  have hnormal := Url.isNormal_of_parse? hparse hscheme hsettled
  refine Exchange.requested_eq_ok_iff.mpr ⟨Url.parse?_target hnormal, ?_⟩
  rw [Url.shown_forRequest]
  obtain ⟨a, ha, -⟩ := hnormal.authority
  exact Url.isRequestable_forRequest ha hsend

theorem head?_requests_follow (net : Network) (first : Url) (left : Nat) (url : Url) :
    (net.follow first left url).requests.head? = some url.requestLine := by
  rw [follow_eq]
  split <;> rfl

/-- A GET whose first request is seen has read its URI, and the text of the request is that of
the URL. -/
theorem exists_of_head?_requests {net : Network} {link : Link} {uri t : String}
    (h : (net.exchange link uri).requests.head? = some ("GET " ++ t)) :
    ∃ url, link = .up ∧ Exchange.requested uri = .ok url ∧ url.scheme = "http".toList ∧ url.target = t := by
  cases hrequested : Exchange.requested uri with
  | error e =>
      rw [exchange_of_requested_error net link hrequested] at h
      exact absurd h (by simp)
  | ok url =>
      cases link with
      | down => exact absurd h (by simp [exchange])
      | up =>
          have hline : url.forRequest.requestLine = "GET " ++ t := by
            simpa only [exchange_of_requested net hrequested, head?_requests_follow,
              Option.some.injEq] using h
          have hhttp : url.forRequest.isHttp = true := by
            have hsend := (Exchange.requested_eq_ok_iff.mp hrequested).2
            rw [Url.isRequestable, Bool.and_eq_true, Url.isHttp_shown] at hsend
            exact hsend.1
          rw [Url.isHttp, Bool.or_eq_true, decide_eq_true_eq, decide_eq_true_eq] at hhttp
          obtain hscheme | hscheme := hhttp
          · rw [requestLine_of_http hscheme, target_forRequest, String.append_right_inj] at hline
            exact ⟨url, rfl, rfl, hscheme, hline⟩
          · rw [Url.requestLine, Url.isSecure, hscheme] at hline
            have hfirst := congrArg (fun s : String => s.toList.head?) hline
            simp at hfirst

end Network

/-! ### What a GET does not depend on -/

/-- Whether the host that a URI names, if it is a name, is its own ASCII form: bringing it into
that form a second time changes nothing. -/
def Url.NamesSettledHost (uri : String) : Prop :=
  ∀ url, Url.parse? uri = some url → url.HostIsSettled

namespace Network

/-- A GET for what the first request of another asks for agrees with that one. -/
theorem exchange_agrees {net : Network} {link : Link} {uri t : String}
    (hsettled : Url.NamesSettledHost uri)
    (h : (net.exchange link uri).requests.head? = some ("GET " ++ t)) :
    (net.exchange link uri).Agrees (net.exchange link t) := by
  obtain ⟨url, rfl, hrequested, hscheme, rfl⟩ := exists_of_head?_requests h
  have hparse := (Exchange.requested_eq_ok_iff.mp hrequested).1
  have htarget := requested_target hrequested hscheme (hsettled url hparse)
  have hidem : url.forRequest.forRequest = url.forRequest := by
    cases url with
    | mk scheme authority path query fragment => cases authority <;> rfl
  rw [exchange_of_requested net hrequested, exchange_of_requested net htarget, hidem]
  exact net.follow_agrees url.shown url.forRequest.shown Exchange.redirectLimit url.forRequest

theorem get_eq_ok_iff {net : Network} {link : Link} {seen : List String} {uri : String}
    {r : Response} :
    ((net.transport link).get seen uri).1 = .ok r ↔ (net.exchange link uri).response = .ok r := by
  cases h : (net.exchange link uri).response with
  | error e => simp [transport, h, Except.mapError]
  | ok r' => simp [transport, h, Except.mapError]

/-- **What a GET does is settled by what its first request asks for: a GET for that text, and
with it every GET whose first request is the same, sends the same requests and comes to the
same response, if to any.  Fragment, user, default port, the case of scheme and host, dot
segments, backslashes, tabs and line breaks of a URI only matter as far as that text does.** -/
theorem get_of_first_request {net : Network} {link : Link} {uri t : String}
    (hsettled : Url.NamesSettledHost uri)
    (h : ((net.transport link).get [] uri).2.head? = some ("GET " ++ t)) (seen : List String) :
    ((net.transport link).get seen t).2 = ((net.transport link).get seen uri).2 ∧
      (∀ r, ((net.transport link).get seen t).1 = .ok r ↔
        ((net.transport link).get seen uri).1 = .ok r) ∧
      ∀ uri', Url.NamesSettledHost uri' →
        ((net.transport link).get [] uri').2.head? = some ("GET " ++ t) →
        ((net.transport link).get seen uri').2 = ((net.transport link).get seen uri).2 ∧
          ∀ r, ((net.transport link).get seen uri').1 = .ok r ↔
            ((net.transport link).get seen uri).1 = .ok r := by
  -- both GETs agree with the one for the text that they ask for first
  have hagrees : ∀ uri', Url.NamesSettledHost uri' →
      ((net.transport link).get [] uri').2.head? = some ("GET " ++ t) →
      ((net.transport link).get seen t).2 = ((net.transport link).get seen uri').2 ∧
        ∀ r, ((net.transport link).get seen t).1 = .ok r ↔
          ((net.transport link).get seen uri').1 = .ok r := by
    intro uri' hsettled' h'
    have hexchange := exchange_agrees hsettled' h'
    refine ⟨congrArg (seen ++ ·) hexchange.requests.symm, fun r => ?_⟩
    rw [get_eq_ok_iff, get_eq_ok_iff, hexchange.response_eq_ok_iff]
  obtain ⟨hrequests, hresponse⟩ := hagrees uri hsettled h
  refine ⟨hrequests, hresponse, fun uri' hsettled' h' => ?_⟩
  obtain ⟨hrequests', hresponse'⟩ := hagrees uri' hsettled' h'
  exact ⟨hrequests'.symm.trans hrequests, fun r => (hresponse' r).symm.trans (hresponse r)⟩

/-- A network with a page and a redirect to it. -/
def pageNetwork : Network :=
  [("http://a.test/y/z?q", ⟨302, [(Utf8.encode "Location", Utf8.encode "../w#g")], [], .length⟩),
    ("http://a.test/w", ⟨200, [], Utf8.encode "page", .length⟩)]

/-- A URI with a user, the default port, dots, backslashes, a tab and a fragment. -/
def crookedUri : String := "hTTp:\\me:pw@A.Test:80/x/../y\t\\.\\z?q#f"

theorem namesSettledHost_crookedUri : Url.NamesSettledHost crookedUri := by
  have hparse : Url.parse? crookedUri = some ⟨"http".toList,
      some ⟨⟨"me".toList, "pw".toList⟩, .name "a.test".toList, none⟩,
      .segments ["y".toList, "z".toList], some "q".toList, some "f".toList⟩ := by decide +kernel
  intro url h a ha name hname
  obtain rfl := Option.some.inj (hparse.symm.trans h)
  obtain rfl := Option.some.inj ha
  obtain rfl := Host.name.inj hname
  decide +kernel

/-- The page is found under the text that is asked for first. -/
theorem get_of_first_request_crookedUri :
    Url.NamesSettledHost crookedUri ∧
      ((pageNetwork.transport .up).get [] crookedUri).2.head? =
        some ("GET " ++ "http://a.test/y/z?q") ∧
      ((pageNetwork.transport .up).get [] "http://a.test/y/z?q").2 =
        ["GET http://a.test/y/z?q", "GET http://a.test/w"] ∧
      ((pageNetwork.transport .up).get [] "http://a.test/y/z?q").1 = .ok ⟨200, none, "page"⟩ := by
  have hfirst : ((pageNetwork.transport .up).get [] crookedUri).2.head? =
      some ("GET " ++ "http://a.test/y/z?q") := by decide +kernel
  have hpage : ((pageNetwork.transport .up).get [] crookedUri).1.toOption =
      some ⟨200, none, "page"⟩ := by decide +kernel
  obtain ⟨hrequests, hresponse, -⟩ := get_of_first_request namesSettledHost_crookedUri hfirst []
  refine ⟨namesSettledHost_crookedUri, hfirst, ?_, (hresponse _).mpr ?_⟩
  · rw [hrequests]
    decide +kernel
  · cases h : ((pageNetwork.transport .up).get [] crookedUri).1 with
    | error e =>
        rw [h] at hpage
        exact absurd hpage (by simp [Except.toOption])
    | ok r =>
        rw [h] at hpage
        exact congrArg Except.ok (Option.some.inj hpage)

end Network
end HttpGet
