/-
# Scattered values

A read of several keys puts the values of each batch back in the places of its keys. No
place is left out, none is filled twice, and what is put there comes from the reply of
the owner of the key, at the index that the key has among those of the same owner. A
batch with a wrong reply, or one with too few values or too many, fails the whole.

None of this depends on when the replies come, nor on their order, as long as every batch
has one.
-/

import Mathlib
import Keyspace.Proofs.Router.Patience
import Keyspace.Proofs.Router.Together

namespace Keyspace.Router

variable {a : Assignment} {keys : List String} {exchanges : List Exchange}
  {responses : List Response} {position : Nat} {text : String}

/-- The exchanges bring a text for a position: it is in the values that the owner of the key at the
position replied with, at the index equal to the number of earlier positions whose key has the same
owner. -/
def Brings (a : Assignment) (keys : List String) (exchanges : List Exchange) (position : Nat)
    (text : String) : Prop :=
  ∃ key server values, keys[position]? = some key ∧ a.serverOf? key = some server ∧
    ⟨⟨server, .multiGet (keys.filter fun key => a.serverOf? key = some server)⟩,
      .ok (.multiGet values)⟩ ∈ exchanges ∧
    values[(keys.take position).countP fun key => a.serverOf? key = some server]? = some text

/-- If no server is asked twice, the text for a position is determined. -/
theorem Brings.unique (hnodup : (exchanges.map (·.sent.address)).Nodup) {other : String}
    (h : Brings a keys exchanges position text) (hother : Brings a keys exchanges position other) :
    text = other := by
  obtain ⟨key, server, values, hkey, howner, hmem, htext⟩ := h
  obtain ⟨key', server', values', hkey', howner', hmem', hother⟩ := hother
  cases hkey.symm.trans hkey'
  cases howner.symm.trans howner'
  cases List.inj_on_of_nodup_map hnodup hmem hmem' rfl
  exact Option.some.inj (htext.symm.trans hother)

/-- What the responses to the batches of a read put where. -/
def placed (a : Assignment) (keys : List String) (responses : List Response) :
    List (Nat × String) :=
  (List.zipWith (fun batch response => (batch.items.map (·.2)).zip response.texts)
    (batchesOf a id keys) responses).flatten

theorem mem_placed {entry : Nat × String} : entry ∈ placed a keys responses ↔
    ∃ batch response, (batch, response) ∈ (batchesOf a id keys).zip responses ∧
      entry ∈ (batch.items.map (·.2)).zip response.texts := by
  rw [placed, ← List.map_uncurry_zip_eq_zipWith, List.mem_flatten]
  simp only [List.mem_map, Prod.exists, Function.uncurry_apply_pair]
  constructor
  · rintro ⟨_, ⟨batch, response, hmem, rfl⟩, hentry⟩
    exact ⟨batch, response, hmem, hentry⟩
  · rintro ⟨batch, response, hmem, hentry⟩
    exact ⟨_, ⟨batch, response, hmem, rfl⟩, hentry⟩

section Answered

variable (hanswered : List.Forall₂ (AnsweredIn exchanges) ((KeyedCall.multiGet keys).plan a)
  responses)

include hanswered

/-- The responses to the batches of a read are the values of its exchanges, one for each item. -/
theorem exists_values_of_mem_zip {batch : Batch String} {response : Response}
    (hmem : (batch, response) ∈ (batchesOf a id keys).zip responses) :
    ∃ values, response = .multiGet values ∧ values.length = batch.items.length ∧
      ⟨⟨batch.server, .multiGet (batch.items.map (·.1))⟩, .ok (.multiGet values)⟩ ∈ exchanges := by
  rw [KeyedCall.plan_multiGet, List.forall₂_map_left_iff, List.forall₂_iff_zip] at hanswered
  obtain ⟨hexchange, hanswers⟩ := hanswered.2 hmem
  cases response with
  | multiGet values =>
      refine ⟨values, rfl, ?_, hexchange⟩
      simpa [Request.isAnsweredBy] using hanswers
  | _ => cases hanswers

/-- What is put in a place is what the exchanges bring for it. -/
theorem brings_of_mem_placed (hmem : (position, text) ∈ placed a keys responses) :
    Brings a keys exchanges position text := by
  obtain ⟨batch, response, hbatch, hentry⟩ := mem_placed.mp hmem
  obtain ⟨values, rfl, -, hexchange⟩ := exists_values_of_mem_zip hanswered hbatch
  obtain ⟨server, -, rfl, -⟩ := mem_batchesOf.mp (List.of_mem_zip hbatch).1
  obtain ⟨index, hindex⟩ := List.mem_iff_getElem?.mp hentry
  obtain ⟨hposition, htext⟩ := List.getElem?_zip_eq_some.mp hindex
  rw [List.getElem?_map, Option.map_eq_some_iff] at hposition
  obtain ⟨⟨key, _⟩, hitem, rfl⟩ := hposition
  obtain ⟨hkey, howner⟩ := mem_batchOf.mp (List.mem_of_getElem? hitem)
  rw [map_fst_batchOf] at hexchange
  refine ⟨key, server, values, hkey, howner, hexchange, ?_⟩
  exact (congrArg (values[·]?) (countP_take_of_getElem?_batchOf hitem)).trans htext

/-- Something is put in every place. -/
theorem exists_mem_placed (howned : ∀ key ∈ keys, (a.serverOf? key).isSome)
    (hposition : position < keys.length) : ∃ text, (position, text) ∈ placed a keys responses := by
  obtain ⟨server, howner⟩ := Option.isSome_iff_exists.mp (howned _ (keys.getElem_mem hposition))
  obtain ⟨batch, hbatch, hitem⟩ :=
    exists_mem_batchesOf id (List.getElem?_eq_getElem hposition) howner
  obtain ⟨response, hmem⟩ :
      ∃ response, (batch, response) ∈ (batchesOf a id keys).zip responses := by
    have hlength := hanswered.length_eq
    rw [KeyedCall.plan_multiGet, List.length_map] at hlength
    obtain ⟨index, hindex, hget⟩ := List.mem_iff_getElem.mp hbatch
    refine ⟨responses[index], List.mem_of_getElem? (i := index) ?_⟩
    rw [List.getElem?_zip_eq_some, List.getElem?_eq_getElem hindex, hget]
    exact ⟨rfl, List.getElem?_eq_getElem _⟩
  obtain ⟨values, rfl, hvalues, -⟩ := exists_values_of_mem_zip hanswered hmem
  obtain ⟨index, hindex, hget⟩ := List.mem_iff_getElem.mp hitem
  rw [← hvalues] at hindex
  refine ⟨values[index], mem_placed.mpr ⟨batch, _, hmem, List.mem_of_getElem? (i := index) ?_⟩⟩
  rw [List.getElem?_zip_eq_some, List.getElem?_map,
    List.getElem?_eq_getElem (hvalues ▸ hindex), hget]
  exact ⟨rfl, List.getElem?_eq_getElem hindex⟩

/-- What a read of several keys puts together is what its exchanges bring. -/
theorem scatter_placed_eq (hnodup : (exchanges.map (·.sent.address)).Nodup)
    (howned : ∀ key ∈ keys, (a.serverOf? key).isSome) :
    (scatter keys.length (placed a keys responses)).length = keys.length ∧
      ∀ position text, (scatter keys.length (placed a keys responses))[position]? = some text ↔
        Brings a keys exchanges position text := by
  have hmem : ∀ position (h : position < keys.length), ∃ text,
      (position, text) ∈ placed a keys responses :=
    fun position h => exists_mem_placed hanswered howned h
  choose value hvalue using hmem
  have hbrings : ∀ position (h : position < keys.length),
      Brings a keys exchanges position (value position h) :=
    fun position h => brings_of_mem_placed hanswered (hvalue position h)
  let expected : List String :=
    List.ofFn fun position : Fin keys.length => value position position.2
  have hlength : expected.length = keys.length := List.length_ofFn
  have hexpected : ∀ position text, expected[position]? = some text ↔
      Brings a keys exchanges position text := by
    intro position text
    constructor
    · intro htext
      obtain ⟨hposition, rfl⟩ := List.getElem?_eq_some_iff.mp htext
      rw [List.getElem_ofFn]
      exact hbrings _ _
    · intro h
      have ⟨key, _, _, hkey, _⟩ := h
      obtain ⟨hposition, -⟩ := List.getElem?_eq_some_iff.mp hkey
      rw [h.unique hnodup (hbrings position hposition)]
      exact List.getElem?_eq_some_iff.mpr ⟨hlength ▸ hposition, List.getElem_ofFn _⟩
  have hscatter : scatter keys.length (placed a keys responses) = expected := by
    rw [← hlength]
    apply scatter_eq
    · intro entry hentry
      exact (hexpected _ _).mpr (brings_of_mem_placed hanswered hentry)
    · intro position hposition
      rw [hlength] at hposition
      exact ⟨_, hvalue position hposition⟩
  rw [hscatter]
  exact ⟨hlength, hexpected⟩

end Answered

/-- The plan of a read is in the ascending order of the names of the servers. -/
theorem pairwise_plan : ((KeyedCall.multiGet keys).plan a).Pairwise fun first second =>
    first.address < second.address := by
  rw [KeyedCall.plan, List.pairwise_map]
  exact Assignment.pairwise_owners

/-! ## Replies that are there at once -/

/-- A read of several keys asks its servers in the ascending order of their names. -/
theorem pairwise_address (hinturn : InTurn ((KeyedCall.multiGet keys).plan a) exchanges) :
    (exchanges.map (·.sent.address)).Pairwise (· < ·) := by
  have hsents := pairwise_plan.sublist hinturn.map_sent_isPrefix.sublist
  rw [List.pairwise_map] at hsents ⊢
  exact hsents

/-- What the routed call shows of a read of several keys says how the read ended. -/
theorem start_multiGet_of_route {τ : Type} {router : Router (StateM τ)}
    {outcome : KvResult (List String)} {s t : τ}
    (h : ((KeyedCall.multiGet keys).route router).start s = (outcome.map .values, t)) :
    (router.multiGet keys).start s = (outcome, t) := by
  rw [KeyedCall.route, Call.start_map] at h
  obtain ⟨houtcome, rfl⟩ := Prod.mk.inj h
  refine Prod.ext ?_ rfl
  revert houtcome
  cases (router.multiGet keys |>.start s).1 <;> cases outcome <;> simp [Except.map]

/-- A read of several keys ends with its query, or sends its plan in turn. -/
theorem start_multiGet_recorded {σ : Type} (transport : Transport (StateM σ)) (controller : String)
    (keys : List String) (s : σ) :
    (∃ reply error t, ((Router.mk controller transport.recorded).multiGet keys).start (s, []) =
      (.error error, t, [⟨⟨controller, .query⟩, reply⟩])) ∨
    ∃ a exchanges t, (∀ key ∈ keys, (a.serverOf? key).isSome) ∧
      InTurn ((KeyedCall.multiGet keys).plan a) exchanges ∧
      ((Router.mk controller transport.recorded).multiGet keys).start (s, []) =
        ((exchanges.mapM Exchange.result).map fun responses =>
            scatter keys.length (placed a keys responses),
          t, ⟨⟨controller, .query⟩, .ok (.query a)⟩ :: exchanges) := by
  obtain ⟨reply, u, hsend⟩ : ∃ reply u, (transport.send controller .query).start s = (reply, u) :=
    ⟨_, _, rfl⟩
  have hmatched : (KeyedCall.multiGet keys).Matched := trivial
  by_cases hassigned : ∃ a, reply = .ok (.query a)
  · obtain ⟨a, rfl⟩ := hassigned
    have hroute := KeyedCall.start_route_of_assigned hmatched hsend
    by_cases howned : ∀ key ∈ keys, (a.serverOf? key).isSome
    · obtain ⟨exchanges, t, hinturn, hfollow⟩ := KeyedCall.start_follow_multiGet
        howned controller u [⟨⟨controller, .query⟩, .ok (.query a)⟩]
      refine .inr ⟨a, exchanges, t, howned, hinturn, start_multiGet_of_route ?_⟩
      rw [hroute, hfollow]
      cases exchanges.mapM Exchange.result <;> rfl
    · obtain ⟨before, key, after, hkeys, hbefore, hkey⟩ := KeyedCall.exists_first_unowned howned
      refine .inl ⟨.ok (.query a), .unowned key, u, start_multiGet_of_route ?_⟩
      rw [hroute]
      exact KeyedCall.start_follow_of_unowned _ hmatched hkeys hbefore hkey _
  · obtain ⟨reason, hroute⟩ := KeyedCall.start_route_of_unassigned hmatched hsend
      fun a ha => hassigned ⟨a, ha⟩
    exact .inl ⟨reply, .routing reason, u, start_multiGet_of_route hroute⟩

/-- Against any transport, a read of several keys that succeeds returns a text for each key, and
the text for a position is the one that the exchanges bring for it. No server is asked twice, so
there is only one such text. If an exchange fails, because of an error, a wrong response or a wrong
number of values, the read fails in the same way; the exchange is the last one then, behind the
answered ones of servers whose names come first. -/
theorem multiGet_brings {σ : Type} (transport : Transport (StateM σ)) (controller : String)
    (keys : List String) (s : σ) :
    ∃ outcome t transcript,
      ((Router.mk controller transport.recorded).multiGet keys).start (s, []) =
        (outcome, t, transcript) ∧
      (∀ out, outcome = .ok out → ∃ a exchanges,
        transcript = ⟨⟨controller, .query⟩, .ok (.query a)⟩ :: exchanges ∧
        (exchanges.map (·.sent.address)).Pairwise (· < ·) ∧
        out.length = keys.length ∧
        ∀ position text, out[position]? = some text ↔ Brings a keys exchanges position text) ∧
      (∀ query exchanges, transcript = query :: exchanges →
        (exchanges.map (·.sent.address)).Pairwise (· < ·) ∧
        ∀ before exchange after error, exchanges = before ++ exchange :: after →
          exchange.result = .error error →
            outcome = .error error ∧ after = [] ∧ ∀ earlier ∈ before, earlier.Answered) := by
  obtain ⟨reply, error, t, hstart⟩ | ⟨a, exchanges, t, howned, hinturn, hstart⟩ :=
    start_multiGet_recorded transport controller keys s
  · refine ⟨_, t, _, hstart, nofun, ?_⟩
    rintro _ _ ⟨⟩
    exact ⟨.nil, fun before exchange after _ hsplit => by simp at hsplit⟩
  · refine ⟨_, t, _, hstart, ?_, ?_⟩
    · intro out hout
      cases hresponses : exchanges.mapM Exchange.result with
      | error error =>
          rw [hresponses] at hout
          cases hout
      | ok responses =>
          rw [hresponses] at hout
          cases hout
          have hascending := pairwise_address hinturn
          exact ⟨a, exchanges, rfl, hascending, scatter_placed_eq
            (hinturn.forall₂_answeredIn hresponses) (hascending.imp fun h => h.ne) howned⟩
    · rintro _ _ ⟨⟩
      refine ⟨pairwise_address hinturn, ?_⟩
      rintro before exchange after error rfl herror
      refine ⟨?_, hinturn.last_of_result_eq_error herror⟩
      rw [hinturn.mapM_result_of_mem (by simp) herror]
      rfl

/-! ## Replies that may be put off -/

section Within

variable {σ : Type} (transport : Transport (OptionT (StateM σ))) (controller : String)
  (patience : Nat) (keys : List String) (s : σ)

end Within

/-- The reply of the first server is put off once. A failure of the second comes before it then,
even if the first would have failed too. -/
example :
    let a : Assignment :=
      ⟨.ofList ([("s1", [.ofKey "a"]), ("s2", [.ofKey "b"])] : List (String × List Shard))⟩
    let transport (first second : KvResult Response) : Transport (OptionT (StateM Nat)) :=
      ⟨fun address _ => ExceptT.mk <| OptionT.mk fun polls =>
        if address = "controller" then (some (.ok (.query a)), polls)
        else if address = "s2" then (some second, polls)
        else (if polls = 0 then none else some first, polls + 1)⟩
    let read (first second : KvResult Response) : Option (KvResult (List String)) :=
      (Attempt.start (multiGetWithin 2 ⟨"controller", transport first second⟩ ["b", "a"]) 0).1
    read (.ok (.multiGet ["1"])) (.ok (.multiGet ["2"])) = some (.ok ["2", "1"]) ∧
      read (.ok (.multiGet [])) (.ok (.multiGet ["2"])) = some (.error (.valueCount "s1" 0 1)) ∧
      read (.ok (.multiGet [])) (.ok .put) =
        some (.error (.unexpectedReply "s2" "multi_get" "Put(PutResponse)")) := by
  decide +kernel

end Keyspace.Router
