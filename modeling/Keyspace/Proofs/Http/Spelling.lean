/-
# Spellings of an address

A host may be addressed by its bare text or by a URL, and either may end in slashes.
Those behind a URL do not matter: whatever their number, the address leads to the endpoint
behind the host. Those behind a bare host are kept. They come to stand in front of the
endpoint, where no service has a route, so a server that is reached at the host is not
reached at the host with a slash behind it.
-/

import Mathlib
import Keyspace.Proofs.Http.Attribution
import Keyspace.Proofs.Http.Rejection
import Keyspace.Proofs.Url

namespace Keyspace

namespace Http

/-- As many slashes in a row. -/
def slashes (n : Nat) : String := String.ofList (List.replicate n '/')

@[simp] theorem toList_slashes (n : Nat) : (slashes n).toList = List.replicate n '/' :=
  String.toList_ofList

@[simp] theorem length_slashes (n : Nat) : (slashes n).length = n := by
  rw [slashes, String.length_ofList, List.length_replicate]

@[simp] theorem slashes_zero : slashes 0 = "" := rfl

/-- The text may stand for a host: it is not empty, it is not spelled as a URL, and it does not end
in a slash. -/
structure IsHostText (host : String) : Prop where
  ne_empty : host ≠ ""
  not_isUrl : ¬ isUrl host
  not_slash : host.toList.getLast? ≠ some '/'

/-! ## Slashes at the end -/

section Ends

variable {text other : List Char} {m n : Nat}

/-- Slashes at the end are taken off, and nothing else. -/
theorem rdropWhile_append_slashes (h : text.getLast? ≠ some '/') :
    (text ++ List.replicate n '/').rdropWhile (· = '/') = text := by
  induction n with
  | zero =>
      rw [List.replicate_zero, List.append_nil, List.rdropWhile_eq_self_iff]
      intro hne hlast
      rw [List.getLast?_eq_some_getLast hne] at h
      exact h (congrArg some (of_decide_eq_true hlast))
  | succ n ih =>
      rw [List.replicate_succ', ← List.append_assoc, List.rdropWhile_concat_pos _ _ _ rfl, ih]

theorem trimSlashes_append {address : String} (h : address.toList.getLast? ≠ some '/') :
    trimSlashes (address ++ slashes n) = address := by
  have htrim := rdropWhile_append_slashes (n := n) h
  rw [List.rdropWhile] at htrim
  rw [trimSlashes, String.toList_append, toList_slashes, htrim, String.ofList_toList]

/-- There is only one way to tell the slashes at the end from the rest. -/
theorem eq_of_append_slashes (htext : text.getLast? ≠ some '/') (hother : other.getLast? ≠ some '/')
    (h : text ++ List.replicate m '/' = other ++ List.replicate n '/') : text = other ∧ m = n := by
  have htexts : text = other := by
    rw [← rdropWhile_append_slashes htext, h, rdropWhile_append_slashes hother]
  have hlength := congrArg List.length h
  simp only [htexts, List.length_append, List.length_replicate] at hlength
  exact ⟨htexts, by omega⟩

/-- Slashes at its end make a text begin with a scheme only if it is the scheme without its
slashes. -/
theorem scheme_prefix_append_slashes {scheme : List Char} (hscheme : scheme.getLast? ≠ some '/')
    (htext : text.getLast? ≠ some '/') (hnot : ¬ scheme ++ List.replicate 2 '/' <+: text) :
    scheme ++ List.replicate 2 '/' <+: text ++ List.replicate n '/' ↔ 2 ≤ n ∧ text = scheme := by
  constructor
  · rintro ⟨rest, hrest⟩
    -- The text ends within the scheme, so that all that follows the scheme is slashes.
    rcases List.append_eq_append_iff.mp hrest with ⟨more, hprefix, -⟩ | ⟨more, -, hslashes⟩
    · exact absurd ⟨more, hprefix.symm⟩ hnot
    · obtain ⟨-, -, hrest'⟩ := List.append_eq_replicate_iff.mp hslashes.symm
      rw [hrest', List.append_assoc, List.replicate_append_replicate] at hrest
      obtain ⟨rfl, rfl⟩ := eq_of_append_slashes hscheme htext hrest
      exact ⟨Nat.le_add_right 2 _, rfl⟩
  · rintro ⟨hn, rfl⟩
    obtain ⟨k, rfl⟩ := Nat.exists_eq_add_of_le hn
    exact ⟨List.replicate k '/', by rw [List.replicate_add, List.append_assoc]⟩

end Ends

/-! ## The URL -/

theorem isUrl_iff {address : String} :
    isUrl address ↔ "http:".toList ++ List.replicate 2 '/' <+: address.toList ∨
      "https:".toList ++ List.replicate 2 '/' <+: address.toList := by
  rw [isUrl, Bool.or_eq_true, List.isPrefixOf_iff_prefix, List.isPrefixOf_iff_prefix]
  rfl

section Host

variable {host : String} (h : IsHostText host)

include h

/-- Slashes behind a host make a URL of it only if it is a scheme without its slashes. -/
theorem IsHostText.isUrl_append_slashes_iff (n : Nat) :
    isUrl (host ++ slashes n) ↔ 2 ≤ n ∧ (host = "http:" ∨ host = "https:") := by
  obtain ⟨hhttp, hhttps⟩ := not_or.mp (isUrl_iff.not.mp h.not_isUrl)
  rw [isUrl_iff, String.toList_append, toList_slashes,
    scheme_prefix_append_slashes (by decide) h.not_slash hhttp,
    scheme_prefix_append_slashes (by decide) h.not_slash hhttps, String.toList_inj,
    String.toList_inj, and_or_left]

/-- A scheme in front of a host makes a URL of it, and the slashes behind it are taken off. -/
theorem IsHostText.url_of_scheme (n : Nat) (endpoint : String) :
    url ("http://" ++ host ++ slashes n) endpoint = "http://" ++ host ++ endpoint := by
  have hurl : isUrl ("http://" ++ host ++ slashes n) := by
    rw [isUrl_iff, String.append_assoc, String.toList_append]
    exact .inl (List.prefix_append _ _)
  have hlast : ("http://" ++ host).toList.getLast? ≠ some '/' := by
    have hne : host.toList ≠ [] := by simpa using h.ne_empty
    rw [String.toList_append, List.getLast?_append_of_ne_nil _ hne]
    exact h.not_slash
  rw [url, if_pos hurl, trimSlashes_append hlast]

/-- Slashes behind a bare host stay where they are, unless they make a URL of it. -/
theorem IsHostText.url_bare (n : Nat) (endpoint : String) :
    url (host ++ slashes n) endpoint =
      if 2 ≤ n ∧ (host = "http:" ∨ host = "https:") then host ++ endpoint
      else "http://" ++ host ++ slashes n ++ endpoint := by
  have hurl := h.isUrl_append_slashes_iff n
  split_ifs with hscheme
  · rw [url, if_pos (hurl.mpr hscheme), trimSlashes_append h.not_slash]
  · rw [url, if_neg (hurl.not.mpr hscheme)]
    simp only [String.append_assoc]

/-- So a bare host leads to the endpoint behind it exactly if no slash follows it. -/
theorem IsHostText.url_bare_eq_iff (n : Nat) (endpoint : String) :
    url (host ++ slashes n) endpoint = "http://" ++ host ++ endpoint ↔ n = 0 := by
  rw [h.url_bare]
  constructor
  · intro heq
    have hlength := congrArg String.length heq
    split_ifs at hlength
    · simp at hlength
    · simpa using hlength
  · rintro rfl
    simp

end Host

/-! ## What a server is asked for -/

/-- An endpoint leads along segments of letters, and slashes in front of it along empty ones. -/
theorem isPlainPath_slashes (n : Nat) (verb : Verb) :
    Url.IsPlainPath (slashes n ++ verb.endpoint).toList := by
  -- `all` and not `∀ c ∈ segment`, which would be decided by going through all characters.
  have hletters : ∀ segment ∈ Text.splitAll '/' (verb.endpoint.toList.drop 1),
      segment.all Char.isAlpha := by
    cases verb <;> decide
  have hendpoint : verb.endpoint.toList =
      Url.along (Text.splitAll '/' (verb.endpoint.toList.drop 1)) := by
    cases verb <;> decide
  refine ⟨List.replicate n [] ++ Text.splitAll '/' (verb.endpoint.toList.drop 1), ?_, ?_, ?_⟩
  · exact List.append_ne_nil_of_right_ne_nil _ (Text.splitAll_eq_iff.mp rfl).1
  · intro segment hsegment
    apply Url.isPlainSegment_of_letters
    rcases List.mem_append.mp hsegment with hempty | hsegment
    · rw [List.eq_of_mem_replicate hempty]
      nofun
    · exact List.all_eq_true.mp (hletters segment hsegment)
  · rw [String.toList_append, toList_slashes, Url.along, List.flatMap_append, ← Url.along,
      ← Url.along, ← hendpoint]
    simp [Url.along, List.flatMap_replicate]

theorem isPlainPath_endpoint (verb : Verb) : Url.IsPlainPath verb.endpoint.toList := by
  simpa using isPlainPath_slashes 0 verb

/-- A target that is a plain path asks for this path. -/
theorem path_of_isPlainPath {method target : String} {contentType : Option String}
    {body : List UInt8} (h : Url.IsPlainPath target.toList) :
    HttpRequest.path ⟨method, target, contentType, body⟩ = target := by
  obtain ⟨rest, hslash⟩ := h.exists_eq_cons
  have hserver : behindServer? target.toList = none := by
    rw [hslash]
    rfl
  have hpath : target.toList.takeWhile isBeforeQuery = target.toList := by
    apply List.takeWhile_eq_self_iff.mpr
    intro c hc
    obtain ⟨-, hquestion, hhash⟩ := Url.not_mem_notInPath.mp (h.isPathText.kept c hc)
    simp [isBeforeQuery, hquestion, hhash]
  have hempty : target.toList.isEmpty = false := by
    rw [hslash]
    rfl
  rw [HttpRequest.path]
  simp only [hserver, Option.getD_none, hpath, hempty]
  exact String.ofList_toList

/-- No service has a route for an endpoint with slashes in front. -/
theorem ofPath?_slashes (role : Verb.Role) {n : Nat} (hn : n ≠ 0) (verb : Verb) :
    Verb.ofPath? role (slashes n ++ verb.endpoint) = none := by
  obtain ⟨k, rfl⟩ := Nat.exists_eq_succ_of_ne_zero hn
  have hslashes : (slashes (k + 1) ++ verb.endpoint).toList[1]? = some '/' := by
    have hrest : (slashes k ++ verb.endpoint).toList[0]? = some '/' := by
      obtain ⟨rest, hslash⟩ := (isPlainPath_slashes k verb).exists_eq_cons
      rw [hslash]
      rfl
    simpa [List.replicate_succ] using hrest
  have hendpoint : ∀ other : Verb, other.endpoint.toList[1]? ≠ some '/' := by
    intro other
    cases other <;> decide
  apply List.find?_eq_none.mpr
  intro other _ hother
  rw [← (of_decide_eq_true hother).2] at hslashes
  exact hendpoint other hslashes

/-- So every service turns away what asks for it. -/
theorem start_handle_slashes {σ : Type} [Service σ] {n : Nat} (hn : n ≠ 0) (verb : Verb)
    (body : List UInt8) (s : σ) :
    (handle ⟨"POST", slashes n ++ verb.endpoint, some "application/json", body⟩).start s =
      (.ok ⟨404, []⟩, s) := by
  apply start_handle_of_rejected
  rw [HttpRequest.decode, path_of_isPlainPath (isPlainPath_slashes n verb), ofPath?_slashes _ hn]
  rfl

/-- Such a reply is no report. -/
theorem outcome_not_found (address : String) (verb : Verb) :
    outcome address verb (.ok ⟨404, []⟩) =
      .error (.transport address "unexpected status 404 Not Found") := rfl

/-! ## Who is reached -/

section Reach

variable {σ : Type} [Service σ]

/-- What is posted to the URL of a path at a server gets to the service there: the service handles
it, and its reply comes back as it was. -/
def Network.Reaches (network : Network (StateM σ)) (server : Url) (path : String) : Prop :=
  ∀ ⦃text : String⦄ ⦃body : List UInt8⦄ ⦃s : σ⦄ ⦃reply : Reply⦄ ⦃t : σ⦄,
    Url.ofText? text = some { server with path } →
      (handle ⟨"POST", ({ server with path } : Url).target, some "application/json", body⟩ :
          Action σ Reply).start s = (.ok reply, t) →
        (network.post text body).run s = (.ok reply, t)

/-- A network with one service on it, at the server. -/
def Network.hosting (server : Url) : Network (StateM σ) where
  post text body :=
    match (Url.ofText? text).filter fun url => { url with path := server.path } = server with
    | none => pure (.error (unreachable text))
    | some url =>
      modifyGet fun state =>
        match (handle ⟨"POST", url.target, some "application/json", body⟩ :
          Action σ Reply).start state with
        | (.ok reply, state) => (.ok reply, state)
        | (.error _, state) => (.error "connection closed", state)

theorem Network.reaches_hosting (server : Url) (path : String) :
    (Network.hosting server : Network (StateM σ)).Reaches server path := by
  intro text body s reply t htext hstart
  rw [hosting]
  simp only [htext, Option.filter_some, decide_true, if_true]
  exact run_answer hstart

section Server

variable {network : Network (StateM σ)} {server : Url} {host address : String}
  (htext : Url.IsServerText host.toList) (hserver : Url.ofText? ("http://" ++ host) = some server)

include htext hserver

/-- What is posted to the URL of a plain path at the server gets the reply of the service to what
asks for this path. -/
theorem Network.Reaches.run_post {path : String} (h : network.Reaches server path)
    (hpath : Url.IsPlainPath path.toList) {body : List UInt8} {s t : σ} {reply : Reply}
    (hstart : (handle ⟨"POST", path, some "application/json", body⟩ :
      Action σ Reply).start s = (.ok reply, t)) :
    (network.post ("http://" ++ host ++ path) body).run s = (.ok reply, t) := by
  have hread : Url.ofText? ("http://" ++ host ++ path) = some { server with path } := by
    rw [Url.ofText?_append htext hpath, hserver]
    rfl
  apply h hread
  rwa [Url.target_of_ofText? htext hserver]

/-- A network that reaches the endpoints at the server delivers what is posted to them, at every
address that leads to them. -/
theorem Network.delivers_of_reaches (h : ∀ verb : Verb, network.Reaches server verb.endpoint)
    (hurl : ∀ endpoint, url address endpoint = "http://" ++ host ++ endpoint) :
    network.Delivers address := by
  intro verb body s reply t hstart
  rw [hurl]
  exact (h verb).run_post htext hserver (isPlainPath_endpoint verb) hstart

/-- So a network with a service on it delivers what is posted to the bare host, and to all URLs of
it. -/
theorem Network.delivers_hosting (hhost : IsHostText host) :
    (Network.hosting server : Network (StateM σ)).Delivers host ∧
      ∀ n, (Network.hosting server : Network (StateM σ)).Delivers
        ("http://" ++ host ++ slashes n) := by
  have hreaches : ∀ verb : Verb,
      (Network.hosting server : Network (StateM σ)).Reaches server verb.endpoint :=
    fun verb => reaches_hosting server verb.endpoint
  constructor
  · apply delivers_of_reaches htext hserver hreaches
    intro endpoint
    simpa using (hhost.url_bare_eq_iff 0 endpoint).mpr rfl
  · exact fun n => delivers_of_reaches htext hserver hreaches (hhost.url_of_scheme n)

end Server

/-- The network brings a request to the service if it is sent to the address. -/
def Network.Serves (network : Network (StateM σ)) (address : String) (request : Request) : Prop :=
  ∀ ⦃s : σ⦄ ⦃reply : Reply⦄ ⦃t : σ⦄,
    (handle (HttpRequest.ofRequest request) : Action σ Reply).start s = (.ok reply, t) →
      network.exchange address request s = (.ok reply, t)

/-- A request that is sent to the address is not found there, and changes nothing. -/
def Network.Misses (network : Network (StateM σ)) (address : String) (request : Request) : Prop :=
  ∀ s, (network.transport.send address request).start s =
    (.error (.transport address "unexpected status 404 Not Found"), s)

end Reach

/-- Slashes at the end of an address do not matter behind a URL, but they do behind a bare host.
With a scheme in front a host leads to its endpoints, whatever slashes follow it. Without one it
does so exactly if none follow: they are kept in front of the endpoint, or taken for those of a
scheme. So on a network where the service at the host is reached, it is reached at the bare host and
at all URLs of it, but at the bare host with slashes behind it no request is found. -/
theorem spelling_decides_endpoint {host : String} (hhost : IsHostText host) (request : Request) :
    (∀ n, url ("http://" ++ host ++ slashes n) request.endpoint =
      "http://" ++ host ++ request.endpoint) ∧
    (∀ n, url (host ++ slashes n) request.endpoint = "http://" ++ host ++ request.endpoint ↔
      n = 0) ∧
    (∀ n, url (host ++ slashes n) request.endpoint =
      if 2 ≤ n ∧ (host = "http:" ∨ host = "https:") then host ++ request.endpoint
      else "http://" ++ host ++ slashes n ++ request.endpoint) ∧
    ∀ (σ : Type) [Service σ] (network : Network (StateM σ)) (server : Url),
      Url.IsServerText host.toList → Url.ofText? ("http://" ++ host) = some server →
        (network.Reaches server request.endpoint → network.Serves host request ∧
          ∀ n, network.Serves ("http://" ++ host ++ slashes n) request) ∧
        ∀ n, n ≠ 0 → ¬ isUrl (host ++ slashes n) →
          network.Reaches server (slashes n ++ request.endpoint) →
            network.Misses (host ++ slashes n) request := by
  have hscheme := fun n => hhost.url_of_scheme n request.endpoint
  have hbare := fun n => hhost.url_bare n request.endpoint
  have hiff := fun n => hhost.url_bare_eq_iff n request.endpoint
  refine ⟨hscheme, hiff, hbare, fun σ _ network server htext hserver => ⟨fun hreaches => ?_, ?_⟩⟩
  · have hserves : ∀ address, url address request.endpoint = "http://" ++ host ++ request.endpoint →
        network.Serves address request := by
      intro address hurl s reply t hstart
      rw [Network.exchange, hurl]
      exact hreaches.run_post htext hserver (isPlainPath_endpoint request.verb) hstart
    have hhost := (hiff 0).mpr rfl
    rw [slashes_zero, String.append_empty] at hhost
    exact ⟨hserves host hhost, fun n => hserves _ (hscheme n)⟩
  · intro n hn hnot hreaches s
    have hurl := hbare n
    rw [if_neg ((hhost.isUrl_append_slashes_iff n).not.mp hnot), String.append_assoc] at hurl
    rw [network.start_send, Network.exchange, hurl,
      hreaches.run_post htext hserver (isPlainPath_slashes n request.verb)
        (start_handle_slashes hn request.verb request.body s), outcome_not_found]

/-- A query for a controller at the loopback address. -/
theorem spelling_decides_endpoint_loopback :
    let host := "[::1]:1"
    let server : Url := ⟨false, ⟨"", ""⟩, .v6 #v[0, 0, 0, 0, 0, 0, 0, 1], 1, "/", none, none⟩
    let network : Network (StateM Controller) := .hosting server
    IsHostText host ∧ Url.IsServerText host.toList ∧
      Url.ofText? ("http://" ++ host) = some server ∧
      network.Reaches server Request.query.endpoint ∧
      network.Serves ("http://" ++ host ++ slashes 2) .query ∧
      ¬ isUrl (host ++ slashes 1) ∧ network.Reaches server (slashes 1 ++ Request.query.endpoint) ∧
      network.Misses (host ++ slashes 1) .query := by
  intro host server network
  have hhost : IsHostText host := ⟨by decide, by decide, by decide⟩
  have htext : Url.IsServerText host.toList :=
    ⟨by decide, by simp [host, Url.isSlash], by simp [host, Url.notInPath]⟩
  have hserver : Url.ofText? ("http://" ++ host) = some server := by decide +kernel
  have hbare : ¬ isUrl (host ++ slashes 1) := by decide
  have hendpoint : network.Reaches server Request.query.endpoint :=
    Network.reaches_hosting server _
  have hdoubled : network.Reaches server (slashes 1 ++ Request.query.endpoint) :=
    Network.reaches_hosting server _
  obtain ⟨-, -, -, hnetwork⟩ := spelling_decides_endpoint hhost .query
  obtain ⟨hserves, hmisses⟩ := hnetwork Controller network server htext hserver
  exact ⟨hhost, htext, hserver, hendpoint, (hserves hendpoint).2 2, hbare, hdoubled,
    hmisses 1 Nat.one_ne_zero hbare hdoubled⟩

/-- With one slash behind it a URL leads to the endpoint, but a bare host does not. -/
theorem bare_slash_doubled :
    let host := "127.0.0.1:1"
    IsHostText host ∧
      url ("http://" ++ host ++ slashes 1) Request.query.endpoint =
        "http://" ++ host ++ Request.query.endpoint ∧
      url (host ++ slashes 1) Request.query.endpoint = "http://127.0.0.1:1//ctrl/query" ∧
      url (host ++ slashes 1) Request.query.endpoint ≠
        "http://" ++ host ++ Request.query.endpoint :=
  ⟨⟨by decide, by decide, by decide⟩, by decide, by decide, by decide⟩

end Http

end Keyspace
