/-
# Reading many keys at once

A read of several keys returns what reading them one after another returns, if none of
them fails. If some fail, it fails as the read of one of them does, and which one is
decided by two orders together: a key without an owner counts before all others, then
the names of the servers count, and only then the order of the keys. Servers that are
down, shards that overlap and keys that stand twice make no difference.
-/

import Mathlib
import Keyspace.Proofs.Cluster.Gathering
import Keyspace.Proofs.Cluster.OneStore

namespace Keyspace.Cluster

variable {cluster : Cluster} {assignment : Assignment} {keys : List String} {key : String}

/-- A key that can be read has an owner. -/
theorem isSome_of_read_eq_ok {value : String} (h : cluster.read assignment key = .ok value) :
    (assignment.serverOf? key).isSome := by
  rw [Option.isSome_iff_ne_none]
  intro hnone
  cases (read_of_unowned hnone).symm.trans h

/-- All keys can be read, or one of them decides. -/
theorem forall_ok_or_exists_decides (cluster : Cluster) (assignment : Assignment)
    (keys : List String) :
    (∀ key ∈ keys, ∃ value, cluster.read assignment key = .ok value) ∨
      ∃ key, Decides assignment (Fails (cluster.read assignment)) keys key := by
  by_cases hall : ∀ key ∈ keys, (assignment.serverOf? key).isSome ∧
      ¬ Fails (cluster.read assignment) key
  · exact .inl fun key hkey => exists_ok_of_not_fails (hall key hkey).2
  · exact .inr (exists_decides hall)

section Call

variable (h : cluster.Ready assignment) (hcontroller : cluster.controller ∉ cluster.down)

include h hcontroller

/-- If all keys can be read, their values are read. -/
theorem Ready.multiGet_of_forall_ok
    (hread : ∀ key ∈ keys, ∃ value, cluster.read assignment key = .ok value) :
    ((router cluster.controller).multiGet keys).start cluster =
      (keys.mapM (cluster.read assignment), cluster) := by
  choose! value hvalue using hread
  have howned : ∀ key ∈ keys, (assignment.serverOf? key).isSome := fun key hkey =>
    isSome_of_read_eq_ok (hvalue key hkey)
  rw [h.start_multiGet hcontroller howned, gather_eq_ok howned hvalue, mapM_eq_ok hvalue]

/-- If a key decides, its failure is that of the whole. -/
theorem Ready.multiGet_of_decides
    (hkey : Decides assignment (Fails (cluster.read assignment)) keys key) :
    ∃ error, cluster.read assignment key = .error error ∧
      ((router cluster.controller).multiGet keys).start cluster = (.error error, cluster) := by
  by_cases howned : ∀ key ∈ keys, (assignment.serverOf? key).isSome
  · obtain ⟨error, herror, hgather⟩ := hkey.gather_eq_error howned
    exact ⟨error, herror, by rw [h.start_multiGet hcontroller howned, hgather]⟩
  · cases hkey with
    | failing howned' => exact absurd howned' howned
    | unowned hkeys hbefore hnone =>
        refine ⟨_, read_of_unowned hnone, ?_⟩
        rw [Router.multiGet, Call.start_bind_ok (h.start_query hcontroller),
          Router.batches_eq_error ((List.map_id _).trans hkeys) hbefore hnone]
        exact Call.start_bind_error (Call.start_liftM _) _

/-- The whole succeeds as reading the keys one after another does. -/
theorem Ready.multiGet_eq_ok_iff {values : List String} :
    (((router cluster.controller).multiGet keys).start cluster).1 = .ok values ↔
      keys.mapM (cluster.read assignment) = .ok values := by
  rcases forall_ok_or_exists_decides cluster assignment keys with hread | ⟨key, hkey⟩
  · rw [h.multiGet_of_forall_ok hcontroller hread]
  · obtain ⟨error, herror, hwhole⟩ := h.multiGet_of_decides hcontroller hkey
    obtain ⟨_, -, _, -, hmapM⟩ := exists_mapM_eq_error ⟨key, hkey.mem, error, herror⟩
    rw [hwhole, hmapM]
    exact ⟨nofun, nofun⟩

/-- However it ends, it changes nothing. -/
theorem Ready.snd_start_multiGet :
    (((router cluster.controller).multiGet keys).start cluster).2 = cluster := by
  rcases forall_ok_or_exists_decides cluster assignment keys with hread | ⟨key, hkey⟩
  · rw [h.multiGet_of_forall_ok hcontroller hread]
  · obtain ⟨error, -, hwhole⟩ := h.multiGet_of_decides hcontroller hkey
    rw [hwhole]

/-- A read of several keys succeeds exactly if the reads of the single keys do, and with their
values. Otherwise there is a key that decides, and whatever the read of such a key fails with, the
whole fails with. Neither changes anything. -/
theorem Ready.multiGet_agrees_with_gets (keys : List String) :
    let single (key : String) := ((router cluster.controller).get key).start cluster
    let whole := ((router cluster.controller).multiGet keys).start cluster
    (∀ values, whole.1 = .ok values ↔
      List.Forall₂ (fun key value => (single key).1 = .ok value) keys values) ∧
    ((∃ values, whole.1 = .ok values) ∨
      ∃ key, Decides assignment (Fails fun key => (single key).1) keys key) ∧
    (∀ key, Decides assignment (Fails fun key => (single key).1) keys key →
      ∃ error, (single key).1 = .error error ∧ whole.1 = .error error) ∧
    whole.2 = cluster ∧ ∀ key, (single key).2 = cluster := by
  intro single whole
  have hsingle : ∀ key, single key = (cluster.read assignment key, cluster) :=
    h.start_get hcontroller
  simp only [hsingle]
  refine ⟨fun values => (h.multiGet_eq_ok_iff hcontroller).trans mapM_eq_ok_iff, ?_, ?_,
    h.snd_start_multiGet hcontroller, fun _ => trivial⟩
  · rcases forall_ok_or_exists_decides cluster assignment keys with hread | hdecides
    · choose! value hvalue using hread
      exact .inl ⟨_, (h.multiGet_eq_ok_iff hcontroller).mpr (mapM_eq_ok hvalue)⟩
    · exact .inr hdecides
  · intro key hkey
    obtain ⟨error, herror, hwhole⟩ := h.multiGet_of_decides hcontroller hkey
    exact ⟨error, herror, congrArg Prod.fst hwhole⟩

end Call

/-- Four servers, of which two share a key, one of these is down, and the last holds nothing. A
repeated key is read twice. A key that the first server lacks decides, although a key of the server
that is down stands before it, and so does one that the last server lacks. -/
theorem Ready.multiGet_agrees_with_gets_four_servers :
    let assignment : Assignment := ⟨.ofList ([("s1", [.ofKey "a", .ofKey "c"]),
      ("s2", [.ofKey "a", .ofKey "b"]), ("s3", [.ofKey "b"]), ("s4", [.ofKey "d"])] :
        List (String × List Shard))⟩
    let fresh := ofAuthority "controller" (.fixed assignment) (.simple FlatStore.empty)
    let store : Engine := .simple ⟨(∅ : Contents).insert "a" "1"⟩
    let cluster : Cluster := { fresh.withStore "s1" store with down := ["s2"] }
    let single (key : String) := ((router cluster.controller).get key).start cluster
    let whole (keys : List String) := ((router cluster.controller).multiGet keys).start cluster
    cluster.Ready assignment ∧ cluster.controller ∉ cluster.down ∧
      (whole ["a", "a"]).1 = .ok ["1", "1"] ∧
      (single "b").1 = .error (.transport "s2" "connection refused") ∧
      (single "c").1 = .error (.notFound "c") ∧
      (whole ["b", "a", "d", "c"]).1 = .error (.notFound "c") ∧
      (whole ["b", "a", "d", "c"]).2 = cluster := by
  intro assignment fresh store cluster single whole
  have hfresh : fresh.Fresh :=
    fresh_ofAuthority (show "controller" ∉ assignment.names by decide +kernel) .simple
  have hstored : (fresh.withStore "s1" store).Ready assignment :=
    hfresh.reflects.ready.withStore trivial
  have hready : cluster.Ready assignment := ⟨⟨rfl, hfresh.apart, rfl⟩, hstored.sound⟩
  have hcontroller : cluster.controller ∉ cluster.down := by decide
  have hfound : (single "a").1 = .ok "1" := by decide +kernel
  have habsent : (single "c").1 = .error (.notFound "c") := by decide +kernel
  have hdown : (single "b").1 = .error (.transport "s2" "connection refused") := by decide +kernel
  obtain ⟨hvalues, -, -, -, -⟩ := hready.multiGet_agrees_with_gets hcontroller ["a", "a"]
  obtain ⟨-, -, hfails, hstate, -⟩ :=
    hready.multiGet_agrees_with_gets hcontroller ["b", "a", "d", "c"]
  have hleast : ∀ owner ∈ assignment.names, ¬ owner < "s1" := by decide +kernel
  have hdecides :
      Decides assignment (Fails fun key => (single key).1) ["b", "a", "d", "c"] "c" := by
    refine .failing (by decide +kernel) (show _ = ["b", "a", "d"] ++ "c" :: [] from rfl)
      (show assignment.serverOf? "c" = some "s1" by decide +kernel) ⟨_, habsent⟩ ?_ ?_
    · intro earlier hearlier howner
      simp only [List.mem_cons, List.not_mem_nil, or_false] at hearlier
      rcases hearlier with rfl | rfl | rfl
      · exact absurd howner (by decide +kernel)
      · rintro ⟨error, herror⟩
        cases herror.symm.trans hfound
      · exact absurd howner (by decide +kernel)
    · intro other _ owner howner hless
      exact absurd hless (hleast owner (Assignment.mem_names_of_serverOf? howner))
  obtain ⟨error, herror, hwhole⟩ := hfails "c" hdecides
  cases herror.symm.trans habsent
  exact ⟨hready, hcontroller, (hvalues _).mpr (.cons hfound (.cons hfound .nil)), hdown, habsent,
    hwhole, hstate⟩

end Keyspace.Cluster
