/-
# What a run did to a key decides its value

A run of calls is read as a history of events, each about one key: an accepted write of
several pairs overwrites the keys one after another, a delete that found nothing is no
event, and neither is a call that was refused or only reads. The history says what is to
be found for a key. The key is live if something was written to it since it was last
deleted, and then its value is what last overwrote it since, followed by everything
appended after that.

A lawful store that started out empty holds exactly this after every run, and answers
accordingly. The striped store is one, whatever its hash and its number of buckets.
-/

import Mathlib
import Keyspace.Proofs.Store.Operation
import Keyspace.Proofs.Store.Striped

namespace Keyspace

open KvStore (contents)

/-- Something that happens to one key. -/
inductive KeyEvent where
  | overwrite (key value : String)
  | append (key value : String)
  | delete (key : String)
deriving DecidableEq, Repr

namespace KeyEvent

/-- The key that the event happens to. -/
def key : KeyEvent → String
  | overwrite key _ | append key _ | delete key => key

/-- The event writes to the key. -/
def Writes (key : String) : KeyEvent → Prop
  | overwrite name _ | append name _ => name = key
  | delete _ => False

instance (key : String) (event : KeyEvent) : Decidable (event.Writes key) :=
  match event with
  | overwrite _ _ | append _ _ => inferInstanceAs (Decidable (_ = _))
  | delete _ => inferInstanceAs (Decidable False)

/-- The value that the event gives to the key, if it overwrites it. -/
def overwritten? (key : String) : KeyEvent → Option String
  | overwrite name value => if name = key then some value else none
  | append _ _ | delete _ => none

/-- What the event appends to the key. -/
def appended? (key : String) : KeyEvent → Option String
  | append name value => if name = key then some value else none
  | overwrite _ _ | delete _ => none

/-- What the event makes of a map. -/
def apply : KeyEvent → Contents → Contents
  | overwrite key value, items => items.insert key value
  | append key value, items => items.append key value
  | delete key, items => items.erase key

theorem actsOn_apply (event : KeyEvent) : Contents.ActsOn event.key event.apply := by
  cases event with
  | overwrite key value => exact Contents.actsOn_insert key value
  | append key value => exact Contents.actsOn_append key value
  | delete key => exact Contents.actsOn_erase key

end KeyEvent

/-! ## What a history says of a key -/

/-- Events, the earliest first. -/
abbrev KeyHistory := List KeyEvent

namespace KeyHistory

open KeyEvent (overwritten? appended?)

/-- What happened after the key was last deleted. -/
def sinceDelete (key : String) (history : KeyHistory) : KeyHistory :=
  history.rtakeWhile (· ≠ .delete key)

/-- What happened after the key was last overwritten. -/
def sinceOverwrite (key : String) (history : KeyHistory) : KeyHistory :=
  history.rtakeWhile fun event => (event.overwritten? key).isNone

/-- The value that last overwrote the key. -/
def lastOverwrite? (key : String) (history : KeyHistory) : Option String :=
  history.reverse.findSome? (overwritten? key)

/-- All that was appended to the key, in order. -/
def appended (key : String) (history : KeyHistory) : String :=
  String.join (history.filterMap (appended? key))

/-- The key was written to after it was last deleted. -/
def Live (key : String) (history : KeyHistory) : Prop :=
  ∃ event ∈ history.sinceDelete key, event.Writes key

instance (key : String) (history : KeyHistory) : Decidable (history.Live key) :=
  inferInstanceAs (Decidable (∃ event ∈ _, _))

/-- What last overwrote the key since it was last deleted, or else the empty text, followed by all
that was appended to it later. -/
def value (key : String) (history : KeyHistory) : String :=
  ((history.sinceDelete key).lastOverwrite? key).getD "" ++
    ((history.sinceDelete key).sinceOverwrite key).appended key

/-- What is to be found for the key. -/
def found? (key : String) (history : KeyHistory) : Option String :=
  if history.Live key then some (history.value key) else none

/-- What the events make of a map, one after another. -/
def replay (history : KeyHistory) (items : Contents) : Contents :=
  history.foldl (fun items event => event.apply items) items

variable {history : KeyHistory} {event : KeyEvent} {items : Contents} {key value : String}

/-! ### One more event -/

theorem sinceDelete_concat (h : event ≠ .delete key) :
    (history ++ [event]).sinceDelete key = history.sinceDelete key ++ [event] :=
  List.rtakeWhile_concat_pos _ _ _ (by simpa using h)

theorem live_concat (h : event ≠ .delete key) :
    (history ++ [event]).Live key ↔ history.Live key ∨ event.Writes key := by
  unfold Live
  rw [sinceDelete_concat h]
  simp [or_and_right, exists_or]

/-- A deleted key is not live. -/
theorem not_live_concat_delete : ¬ (history ++ [KeyEvent.delete key]).Live key := by
  have hempty : (history ++ [KeyEvent.delete key]).sinceDelete key = [] :=
    List.rtakeWhile_concat_neg _ _ _ (by simp)
  unfold Live
  rw [hempty]
  simp

/-- The value after one more event is what overwrote the key, or else the value before with what was
appended behind it. -/
theorem value_concat (h : event ≠ .delete key) :
    (history ++ [event]).value key = (event.overwritten? key).getD
      (history.value key ++ (event.appended? key).getD "") := by
  rw [KeyHistory.value, sinceDelete_concat h, lastOverwrite?, List.reverse_append,
    List.reverse_singleton, List.singleton_append, List.findSome?_cons, sinceOverwrite]
  cases hover : event.overwritten? key with
  | some value =>
      rw [List.rtakeWhile_concat_neg _ _ _ (by simp [hover])]
      exact String.append_empty
  | none =>
      rw [List.rtakeWhile_concat_pos _ _ _ (by simp [hover]), appended, List.filterMap_append,
        String.join_append, ← String.append_assoc]
      cases happended : event.appended? key with
      | none => simp [happended]; rfl
      | some value => simp [happended]; rfl

/-- The value of a key that is not live is the empty text. -/
theorem value_of_not_live (h : ¬ history.Live key) : history.value key = "" := by
  have hnone : ∀ event ∈ history.sinceDelete key,
      event.overwritten? key = none ∧ event.appended? key = none := by
    intro event hevent
    have hwrites : ¬ event.Writes key := fun hwrites => h ⟨event, hevent, hwrites⟩
    cases event with
    | overwrite name value => exact ⟨if_neg hwrites, rfl⟩
    | append name value => exact ⟨rfl, if_neg hwrites⟩
    | delete name => exact ⟨rfl, rfl⟩
  have hlast : (history.sinceDelete key).lastOverwrite? key = none := by
    rw [lastOverwrite?, List.findSome?_eq_none_iff]
    exact fun event hevent => (hnone event (List.mem_reverse.mp hevent)).1
  have happended :
      ((history.sinceDelete key).sinceOverwrite key).filterMap (appended? key) = [] := by
    rw [List.filterMap_eq_nil_iff]
    intro event hevent
    exact (hnone event ((List.rtakeWhile_suffix _ _).subset hevent)).2
  rw [KeyHistory.value, hlast, appended, happended]
  rfl

theorem getD_found? : (history.found? key).getD "" = history.value key := by
  rw [found?]
  split_ifs with hlive
  · rfl
  · exact (value_of_not_live hlive).symm

/-- Events of other keys do not matter. -/
theorem found?_concat_of_ne (h : event.key ≠ key) :
    (history ++ [event]).found? key = history.found? key := by
  have hdelete : event ≠ .delete key := by
    rintro rfl
    exact h rfl
  have hquiet : event.overwritten? key = none ∧ event.appended? key = none ∧
      ¬ event.Writes key := by
    cases event with
    | overwrite name value => exact ⟨if_neg h, rfl, h⟩
    | append name value => exact ⟨rfl, if_neg h, h⟩
    | delete name => exact ⟨rfl, rfl, not_false⟩
  obtain ⟨hover, happended, hwrites⟩ := hquiet
  have hlive : (history ++ [event]).Live key ↔ history.Live key :=
    (live_concat hdelete).trans (or_iff_left hwrites)
  have hvalue : (history ++ [event]).value key = history.value key := by
    rw [value_concat hdelete, hover, happended]
    exact String.append_empty
  simp only [found?, hlive, hvalue]

/-- An event makes of the value of a key what the history then says. -/
theorem getElem?_apply (h : items[key]? = history.found? key) :
    (event.apply items)[key]? = (history ++ [event]).found? key := by
  by_cases hkey : event.key = key
  · cases event with
    | overwrite name value =>
        obtain rfl : name = key := hkey
        have hdelete : KeyEvent.overwrite name value ≠ .delete name := nofun
        have hlive : (history ++ [KeyEvent.overwrite name value]).Live name :=
          (live_concat hdelete).mpr (.inr rfl)
        rw [found?, if_pos hlive, value_concat hdelete]
        simp [KeyEvent.apply, overwritten?]
    | append name value =>
        obtain rfl : name = key := hkey
        have hdelete : KeyEvent.append name value ≠ .delete name := nofun
        have hlive : (history ++ [KeyEvent.append name value]).Live name :=
          (live_concat hdelete).mpr (.inr rfl)
        rw [found?, if_pos hlive, value_concat hdelete, ← getD_found?, ← h]
        simp [KeyEvent.apply, Contents.append, overwritten?, appended?,
          Std.ExtTreeMap.getD_eq_getD_getElem?]
    | delete name =>
        obtain rfl : name = key := hkey
        rw [found?, if_neg not_live_concat_delete]
        exact Std.ExtTreeMap.getElem?_erase_self
  · rw [event.actsOn_apply.elsewhere _ _ (Ne.symm hkey), found?_concat_of_ne hkey, h]

/-- What the events make of nothing is what their history says. -/
theorem getElem?_replay (history : KeyHistory) (key : String) :
    (history.replay ∅)[key]? = history.found? key := by
  induction history using List.reverseRecOn with
  | nil => exact Std.ExtTreeMap.getElem?_empty
  | append_singleton history event ih =>
      rw [replay, List.foldl_append]
      exact getElem?_apply ih

/-- A history without the events of other keys says the same of a key. -/
theorem found?_filter (history : KeyHistory) (key : String) :
    KeyHistory.found? key (history.filter (·.key = key)) = history.found? key := by
  induction history using List.reverseRecOn with
  | nil => rfl
  | append_singleton history event ih =>
      by_cases hkey : event.key = key
      · have hsame : [event].filter (·.key = key) = [event] := by simp [hkey]
        have hreplay := getElem?_replay history key
        rw [List.filter_append, hsame, ← getElem?_apply hreplay]
        exact (getElem?_apply (hreplay.trans ih.symm)).symm
      · have hother : [event].filter (·.key = key) = [] := by simp [hkey]
        rw [List.filter_append, hother, List.append_nil, ih, found?_concat_of_ne hkey]

theorem replay_append (first second : KeyHistory) (items : Contents) :
    replay (first ++ second) items = second.replay (first.replay items) :=
  List.foldl_append

/-- Overwriting keys one after another is writing all pairs. -/
theorem replay_overwrites (pairs : List (String × String)) (items : Contents) :
    replay (pairs.map fun (key, value) => .overwrite key value) items = items.insertMany pairs := by
  induction pairs generalizing items with
  | nil => rfl
  | cons pair pairs ih =>
      rw [Std.ExtTreeMap.insertMany_cons]
      exact ih _

end KeyHistory

/-! ## Runs of calls -/

namespace Operation

variable {σ : Type} [KvStore σ]

/-- The events of a call that ended in the given way. There is none where the call was refused. -/
def events : Operation → Except Failure Answer → KeyHistory
  | put key value, .ok _ => [.overwrite key value]
  | append key value, .ok _ => [.append key value]
  | delete key, .ok _ => [.delete key]
  | multiPut keys values, .ok _ => (keys.zip values).map fun (key, value) => .overwrite key value
  | _, _ => []

/-- The store after a run of calls. -/
def afterCalls : List Operation → σ → σ
  | [], s => s
  | call :: calls, s => afterCalls calls (call.perform.start s).2

/-- The events of a run of calls, in the order of the calls. -/
def history : List Operation → σ → KeyHistory
  | [], _ => []
  | call :: calls, s =>
    call.events (call.perform.start s).1 ++ history calls (call.perform.start s).2

end Operation

namespace KvStore

open Operation (afterCalls history)

variable {σ : Type} [KvStore σ] {Sound : σ → Prop} {s : σ}

/-- A call makes of the contents what its events make of them. -/
theorem Lawful.contents_eq_replay (h : Lawful Sound) (hs : Sound s) (call : Operation) :
    Sound (call.perform.start s).2 ∧ contents (call.perform.start s).2 =
      (call.events (call.perform.start s).1).replay (contents s) := by
  obtain ⟨result, hends, hrefused⟩ := h.ends_perform hs call
  refine ⟨hends.sound, ?_⟩
  rw [hends.contents_eq, hends.outcome_eq]
  cases result with
  | error error =>
      rw [hrefused error rfl]
      cases call <;> rfl
  | ok answer =>
      cases call with
      | multiPut keys values =>
          have hlength : keys.length = values.length := by
            by_contra hne
            have hmap := (h.multiPut_of_ne hs keys values hne).map fun () => Answer.done
            cases hmap.outcome_eq.symm.trans hends.outcome_eq
          exact (if_pos hlength).trans (KeyHistory.replay_overwrites _ _).symm
      | _ => rfl

/-- A run of calls makes of the contents what its events make of them. -/
theorem Lawful.contents_afterCalls (h : Lawful Sound) (hs : Sound s) (calls : List Operation) :
    Sound (afterCalls calls s) ∧
      contents (afterCalls calls s) = (history calls s).replay (contents s) := by
  induction calls generalizing s with
  | nil => exact ⟨hs, rfl⟩
  | cons call calls ih =>
      obtain ⟨hsound, hcontents⟩ := h.contents_eq_replay hs call
      obtain ⟨hafter, hrest⟩ := ih hsound
      exact ⟨hafter, by rw [afterCalls, hrest, hcontents, history, KeyHistory.replay_append]⟩

/-- The store holds what the history says of every key, and its answers follow the history. -/
structure Recalls (history : KeyHistory) (s : σ) : Prop where
  holds_iff : ∀ key, key ∈ contents s ↔ history.Live key
  holds : ∀ key, history.Live key → (contents s)[key]? = some (history.value key)
  get : ∀ key, ((Operation.get key).perform.start s).1 =
    if history.Live key then .ok (.value (history.value key))
    else .error (.refused (.notFound key))
  delete : ∀ key, ((Operation.delete key).perform.start s).1 =
    if history.Live key then .ok (.value (history.value key))
    else .error (.refused (.notFound key))
  multiGet : ∀ keys, (∀ key ∈ keys, history.Live key) →
    ((Operation.multiGet keys).perform.start s).1 =
      .ok (.values (keys.map fun key => history.value key))
  multiGet_absent : ∀ before key after, (∀ other ∈ before, history.Live other) →
    ¬ history.Live key → ((Operation.multiGet (before ++ key :: after)).perform.start s).1 =
      .error (.refused (.notFound key))
  put : ∀ key value, ((Operation.put key value).perform.start s).1 = .ok .done
  append : ∀ key value, ((Operation.append key value).perform.start s).1 = .ok .done
  multiPut : ∀ keys values, keys.length = values.length →
    ((Operation.multiPut keys values).perform.start s).1 = .ok .done
  multiPut_of_ne : ∀ keys values, keys.length ≠ values.length →
    ((Operation.multiPut keys values).perform.start s).1 = .error (.refused (.validation
      s!"multi_put got {keys.length} keys but {values.length} values"))

/-- A lawful store that holds what a history says also answers as it says. -/
theorem Lawful.recalls {history : KeyHistory} (h : Lawful Sound) (hs : Sound s)
    (hfound : ∀ key, (contents s)[key]? = history.found? key) : Recalls history s := by
  have hmem : ∀ key, key ∈ contents s ↔ history.Live key := by
    intro key
    rw [Std.ExtTreeMap.mem_iff_isSome_getElem?, hfound, KeyHistory.found?]
    split_ifs with hlive <;> simp [hlive]
  have hholds : ∀ key, history.Live key → (contents s)[key]? = some (history.value key) :=
    fun key hlive => (hfound key).trans (if_pos hlive)
  have hlookup : ∀ key, history.Live key →
      (contents s).lookup key = .ok (history.value key) := by
    intro key hlive
    rw [Contents.lookup, hholds key hlive]
  have habsent : ∀ key, ¬ history.Live key → (contents s).lookup key = .error (.notFound key) :=
    fun key hnot => Contents.lookup_of_not_mem (mt (hmem key).mp hnot)
  have hanswer : ∀ key, (((contents s).lookup key).mapError Failure.refused).map Answer.value =
      if history.Live key then .ok (.value (history.value key))
      else .error (.refused (.notFound key)) := by
    intro key
    split_ifs with hlive
    · rw [hlookup key hlive]
      rfl
    · rw [habsent key hlive]
      rfl
  refine ⟨hmem, hholds, ?_, ?_, ?_, ?_, ?_, ?_, ?_, ?_⟩
  · intro key
    exact ((h.get hs key).map Answer.value).outcome_eq.trans (hanswer key)
  · intro key
    exact ((h.delete hs key).map Answer.value).outcome_eq.trans (hanswer key)
  · intro keys hlive
    refine ((h.multiGet hs keys).map Answer.values).outcome_eq.trans ?_
    rw [mapM_eq_ok fun key hkey => hlookup key (hlive key hkey)]
    rfl
  · intro before key after hbefore hnot
    refine ((h.multiGet hs _).map Answer.values).outcome_eq.trans ?_
    rw [mapM_eq_error_of_first (fun other hother => ⟨_, hlookup other (hbefore other hother)⟩)
      (habsent key hnot)]
    rfl
  · intro key value
    exact ((h.put hs key value).map fun () => Answer.done).outcome_eq
  · intro key value
    exact ((h.append hs key value).map fun () => Answer.done).outcome_eq
  · intro keys values hlength
    exact ((h.multiPut hs keys values hlength).map fun () => Answer.done).outcome_eq
  · intro keys values hne
    exact ((h.multiPut_of_ne hs keys values hne).map fun () => Answer.done).outcome_eq

end KvStore

namespace BucketStore

open Operation (afterCalls history)

/-- After every run of calls on a fresh striped store, of any number of buckets under any hash, the
store holds and answers what the history of the run says. Of the history only the events of the
key itself matter: two runs, on whatever stores, leave the same value to every key that had the
same events in both. -/
theorem recalls_history (hash : String → UInt64) {count : Nat} (hpos : 0 < count) :
    ∃ fresh, ofCount hash count = .ok fresh ∧ ∀ calls,
      KvStore.Recalls (history calls fresh) (afterCalls calls fresh) ∧
      ∀ hash' count' fresh' calls' key, ofCount hash' count' = .ok fresh' →
        (history calls' fresh').filter (·.key = key) = (history calls fresh).filter (·.key = key) →
        (KvStore.contents (afterCalls calls' fresh'))[key]? =
          (KvStore.contents (afterCalls calls fresh))[key]? := by
  have hholds : ∀ {hash count fresh}, ofCount hash count = .ok fresh → ∀ calls key,
      (KvStore.contents (afterCalls calls fresh))[key]? = (history calls fresh).found? key := by
    intro hash count fresh hfresh calls key
    obtain ⟨hsound, hempty⟩ := sound_and_empty_of_ofCount hfresh
    have hstart : KvStore.contents fresh = ∅ := hempty
    rw [(lawful.contents_afterCalls hsound calls).2, hstart, KeyHistory.getElem?_replay]
  obtain ⟨fresh, hfresh, hsound, -⟩ := exists_ofCount hash hpos
  refine ⟨fresh, hfresh, fun calls => ⟨?_, ?_⟩⟩
  · exact lawful.recalls (lawful.contents_afterCalls hsound calls).1 (hholds hfresh calls)
  · intro hash' count' fresh' calls' key hfresh' hevents
    rw [hholds hfresh', hholds hfresh, ← KeyHistory.found?_filter, hevents,
      KeyHistory.found?_filter]

/-- All keys meet in one of three buckets. A key is written twice in one call and deleted, and lives
on from an empty text; another is appended to, overwritten and appended to again; deleting a key
that is not there and a write of too few values are no events. -/
theorem recalls_history_colliding :
    let calls : List Operation :=
      [.multiPut ["a", "b", "a"] ["1", "2", "3"], .append "b" "4", .delete "a", .append "a" "",
        .put "b" "5", .multiPut ["b", "c"] ["6"], .delete "c", .append "b" "7"]
    0 < 3 ∧ ∃ fresh, ofCount (fun _ => 7) 3 = .ok fresh ∧
      history calls fresh =
        [.overwrite "a" "1", .overwrite "b" "2", .overwrite "a" "3", .append "b" "4",
          .delete "a", .append "a" "", .overwrite "b" "5", .append "b" "7"] ∧
      ((Operation.multiGet ["b", "a"]).perform.start (afterCalls calls fresh)).1 =
        .ok (.values ["57", ""]) ∧
      ((Operation.multiGet ["b", "c", "d"]).perform.start (afterCalls calls fresh)).1 =
        .error (.refused (.notFound "c")) := by
  intro calls
  have hpos : 0 < 3 := by decide
  obtain ⟨fresh, hfresh, hrecalls⟩ := recalls_history (fun _ => 7) hpos
  have hhistory : history calls fresh =
      [.overwrite "a" "1", .overwrite "b" "2", .overwrite "a" "3", .append "b" "4",
        .delete "a", .append "a" "", .overwrite "b" "5", .append "b" "7"] := by
    cases hfresh
    decide +kernel
  obtain ⟨hrecalls, -⟩ := hrecalls calls
  rw [hhistory] at hrecalls
  refine ⟨hpos, fresh, hfresh, hhistory, ?_, ?_⟩
  · exact hrecalls.multiGet ["b", "a"] (by decide +kernel)
  · exact hrecalls.multiGet_absent ["b"] "c" ["d"] (by decide +kernel) (by decide +kernel)

end BucketStore

end Keyspace
