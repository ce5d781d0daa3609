/-
# The words of a client

A client is told its operation in words, and with any number of flags between them where
the controller is. Reading takes the flags out, and the words that are left read back as
the operation that they were made from, whatever texts stand in it. The only operations
that cannot be said are those whose words could not be told apart: without any key, pair
or shard, with a key that has an equals sign in it, with a malformed shard, or with a word
that looks like the flag.
-/

import Mathlib
import Keyspace.Proofs.Result
import Keyspace.Proofs.Settings.Flags
import Keyspace.Proofs.Shard.Syntax

namespace Keyspace

variable {words controllers arguments : List String} {op : ClientOp}
  {key value word : String} {s : Shard}

/-! ## Flags between words -/

/-- The arguments are the words, with the flags that give the controllers before, between and behind
them. -/
inductive Interspersed : (words controllers arguments : List String) → Prop where
  | done : Interspersed [] [] []
  | word {word : String} {words controllers arguments : List String}
    (rest : Interspersed words controllers arguments) :
    Interspersed (word :: words) controllers (word :: arguments)
  | flag {controller : String} {words controllers arguments : List String}
    (rest : Interspersed words controllers arguments) :
    Interspersed words (controller :: controllers) ("--controller" :: controller :: arguments)

/-- Reading takes the flags out from between the words. -/
theorem Interspersed.readWords_eq (h : Interspersed words controllers arguments)
    (hwords : "--controller" ∉ words) : readWords arguments = .ok (words, controllers) := by
  induction h with
  | done => rfl
  | @word word words controllers arguments rest ih =>
      rw [List.mem_cons, not_or] at hwords
      have hne : word ≠ "--controller" := Ne.symm hwords.1
      have hrest := ih hwords.2
      cases arguments with
      | nil =>
          cases rest
          rw [readWords, if_neg hne]
      | cons next arguments =>
          rw [readWords, if_neg hne, hrest]
          rfl
  | flag rest ih =>
      rw [readWords, if_pos rfl, ih hwords]
      rfl

/-- Whatever is read consists of words and flags between them, and no word is the flag. -/
theorem interspersed_of_readWords (h : readWords arguments = .ok (words, controllers)) :
    Interspersed words controllers arguments ∧ "--controller" ∉ words := by
  fun_induction readWords arguments generalizing words controllers with
  | case1 =>
      cases h
      exact ⟨.done, List.not_mem_nil⟩
  | case2 => cases h
  | case3 word hne =>
      cases h
      exact ⟨.word .done, by simpa using Ne.symm hne⟩
  | case4 controller rest ih =>
      obtain ⟨⟨others, values⟩, hrest, heq⟩ := exists_of_map_eq_ok h
      cases heq
      obtain ⟨hothers, hwords⟩ := ih hrest
      exact ⟨.flag hothers, hwords⟩
  | case5 word next rest hne ih =>
      obtain ⟨⟨others, values⟩, hrest, heq⟩ := exists_of_map_eq_ok h
      cases heq
      obtain ⟨hothers, hwords⟩ := ih hrest
      exact ⟨.word hothers, List.not_mem_cons_of_ne_of_not_mem (Ne.symm hne) hwords⟩

/-! ## Words of operations -/

namespace ClientOp

/-- The words that say an operation. -/
def toWords : ClientOp → List String
  | query => ["query"]
  | get key => ["get", key]
  | put key value => ["put", key, value]
  | append key value => ["append", key, value]
  | delete key => ["delete", key]
  | multiGet keys => "multiget" :: keys
  | multiPut keys values =>
    "multiput" :: (keys.zip values).map fun (key, value) => key ++ "=" ++ value
  | move destination shards => "move" :: destination :: shards.map Shard.toText

/-- The operation has something to work on, every key to be put has a value and no equals sign in
it, and the shards to be moved are valid. -/
def WellFormed : ClientOp → Prop
  | multiGet keys => keys ≠ []
  | multiPut keys values =>
    keys ≠ [] ∧ keys.length = values.length ∧ ∀ key ∈ keys, '=' ∉ key.toList
  | move _ shards => shards ≠ [] ∧ ∀ s ∈ shards, s.Valid
  | query | get _ | put _ _ | append _ _ | delete _ => True

end ClientOp

/-- A word is read as a pair at its first equals sign. -/
theorem readPair_eq_ok_iff :
    readPair word = .ok (key, value) ↔ word = key ++ "=" ++ value ∧ '=' ∉ key.toList := by
  have htext : word = key ++ "=" ++ value ↔ word.toList = key.toList ++ '=' :: value.toList := by
    rw [← String.toList_inj]
    simp
  rw [htext, ← Text.splitOnce_eq_some, readPair]
  cases Text.splitOnce '=' word.toList with
  | none => simp
  | some parts =>
      obtain ⟨before, after⟩ := parts
      simp [← String.toList_inj]

/-- A valid shard is read back from its text. -/
theorem readShard_toText (h : s.Valid) : readShard s.toText = .ok s := by
  have hread : Shard.ofText s.toText = .ok s := by
    rw [Shard.toText, Shard.ofText_of_bounds (Shard.dash_not_mem_toString _)
      (Shard.isBound_toString _) (Shard.isBound_toString _)]
    exact if_pos h
  rw [readShard, hread]
  rfl

/-- A shard that is read is valid. -/
theorem valid_of_readShard (h : readShard word = .ok s) : s.Valid := by
  cases hread : Shard.ofText word with
  | error cause =>
      rw [readShard, hread] at h
      cases h
  | ok read =>
      rw [readShard, hread] at h
      cases h
      obtain ⟨-, -, -, -, -, -, hvalid⟩ := Shard.exists_bounds_of_ofText hread
      exact hvalid

theorem readOp_multiPut {items : List String} (h : items ≠ []) :
    readOp ("multiput" :: items) = (do
      let pairs ← items.mapM readPair
      pure (.multiPut (pairs.map (·.1)) (pairs.map (·.2)))) := by
  obtain ⟨item, rest, rfl⟩ := List.exists_cons_of_ne_nil h
  rfl

theorem readOp_move {destination : String} {items : List String} (h : items ≠ []) :
    readOp ("move" :: destination :: items) = (do
      pure (.move destination (← items.mapM readShard))) := by
  obtain ⟨item, rest, rfl⟩ := List.exists_cons_of_ne_nil h
  rfl

/-- A well-formed operation is read back from its words. -/
theorem readOp_toWords (h : op.WellFormed) : readOp op.toWords = .ok op := by
  cases op with
  | query | get key | put key value | append key value | delete key => rfl
  | multiGet keys =>
      obtain ⟨key, rest, rfl⟩ := List.exists_cons_of_ne_nil h
      rfl
  | multiPut keys values =>
      obtain ⟨hne, hlength, hkeys⟩ := h
      have hpairs : ((keys.zip values).map fun (key, value) => key ++ "=" ++ value).mapM readPair =
          .ok (keys.zip values) :=
        mapM_map_eq_ok fun pair hpair =>
          readPair_eq_ok_iff.mpr ⟨rfl, hkeys pair.1 (List.of_mem_zip hpair).1⟩
      have hfst : (keys.zip values).map (·.1) = keys := List.map_fst_zip hlength.le
      have hsnd : (keys.zip values).map (·.2) = values := List.map_snd_zip hlength.ge
      have hitems : ((keys.zip values).map fun (key, value) => key ++ "=" ++ value) ≠ [] := by
        rw [Ne, List.map_eq_nil_iff]
        exact fun hnil => hne (by rw [← hfst, hnil]; rfl)
      rw [ClientOp.toWords, readOp_multiPut hitems, hpairs]
      show Except.ok
        (ClientOp.multiPut ((keys.zip values).map (·.1)) ((keys.zip values).map (·.2))) = _
      rw [hfst, hsnd]
  | move destination shards =>
      obtain ⟨hne, hvalid⟩ := h
      have hshards : (shards.map Shard.toText).mapM readShard = .ok shards :=
        mapM_map_eq_ok fun s hs => readShard_toText (hvalid s hs)
      rw [ClientOp.toWords, readOp_move (mt List.map_eq_nil_iff.mp hne), hshards]
      rfl

/-- Pairs are not taken for the flag, because it has no equals sign in it. -/
theorem flag_not_mem_toWords_multiPut (keys values : List String) :
    "--controller" ∉ (ClientOp.multiPut keys values).toWords := by
  rw [ClientOp.toWords, List.mem_cons, List.mem_map, not_or]
  refine ⟨by decide, ?_⟩
  rintro ⟨⟨key, value⟩, -, hpair⟩
  have hequals : '=' ∈ (key ++ "=" ++ value).toList := by simp
  have hpair : key ++ "=" ++ value = "--controller" := hpair
  rw [hpair] at hequals
  exact absurd hequals (by decide)

/-- Shards are not taken for the flag, because they have no letters in them. -/
theorem flag_mem_toWords_move {destination : String} {shards : List Shard} :
    "--controller" ∈ (ClientOp.move destination shards).toWords ↔ destination = "--controller" := by
  have hshards : "--controller" ∉ shards.map Shard.toText := by
    rw [List.mem_map]
    rintro ⟨s, -, hshard⟩
    have hletter : 'c' ∈ s.toText.toList := by
      rw [hshard]
      decide
    rw [Shard.toText, String.toList_append, String.toList_append, List.mem_append,
      List.mem_append] at hletter
    rcases hletter with (hlower | hdash) | hupper
    · exact absurd (Shard.isDigit_of_mem_toString hlower) (by decide)
    · exact absurd hdash (by decide)
    · exact absurd (Shard.isDigit_of_mem_toString hupper) (by decide)
  simp [ClientOp.toWords, hshards, eq_comm]

/-- Words of which none is the flag are only read as a well-formed operation that can be said
without the flag. -/
theorem wellFormed_of_readOp (h : readOp words = .ok op) (hwords : "--controller" ∉ words) :
    op.WellFormed ∧ "--controller" ∉ op.toWords := by
  unfold readOp at h
  split at h
  case h_1 | h_2 | h_3 | h_4 | h_5 =>
    cases h
    exact ⟨trivial, hwords⟩
  case h_6 key keys =>
    cases h
    exact ⟨List.cons_ne_nil _ _, hwords⟩
  case h_7 pair pairs =>
    obtain ⟨read, hread, hop⟩ := exists_of_bind_eq_ok h
    cases hop
    have hne : read ≠ [] := ne_nil_of_mapM_eq_ok hread (List.cons_ne_nil _ _)
    refine ⟨⟨mt List.map_eq_nil_iff.mp hne, by simp, ?_⟩, flag_not_mem_toWords_multiPut _ _⟩
    intro key hkey
    obtain ⟨⟨name, value⟩, hmem, rfl⟩ := List.mem_map.mp hkey
    obtain ⟨word, -, hword⟩ := exists_of_mem_mapM_eq_ok hread hmem
    exact (readPair_eq_ok_iff.mp hword).2
  case h_8 destination shard shards =>
    obtain ⟨read, hread, hop⟩ := exists_of_bind_eq_ok h
    cases hop
    have hne : read ≠ [] := ne_nil_of_mapM_eq_ok hread (List.cons_ne_nil _ _)
    refine ⟨⟨hne, ?_⟩, ?_⟩
    · intro s hs
      obtain ⟨word, -, hword⟩ := exists_of_mem_mapM_eq_ok hread hs
      exact valid_of_readShard hword
    · rw [flag_mem_toWords_move]
      rintro rfl
      exact hwords (by simp)
  case h_9 | h_10 => cases h

/-! ## The main result -/

namespace Command

/-- A well-formed operation is read back from its words, with any flags before, between and behind
them, as long as none of the words is the flag: the client then performs this operation, and asks
the controller that the last flag gives, or else the environment, or else the one by default.
Conversely only well-formed operations are accepted, and of those only the ones whose words are not
the flag. -/
theorem client_reads_words_back (env : Environment) :
    (∀ (op : ClientOp) (controllers arguments : List String), op.WellFormed →
      "--controller" ∉ op.toWords → Interspersed op.toWords controllers arguments →
      ∃ controller, Counts controllers (env .controller) defaultControllerBind controller ∧
        ofArguments ("client" :: arguments) env = .ok (.client ⟨controller, op⟩)) ∧
    ∀ (arguments : List String) (command : Command),
      ofArguments ("client" :: arguments) env = .ok command →
      ∃ settings : ClientSettings, command = .client settings ∧ settings.op.WellFormed ∧
        "--controller" ∉ settings.op.toWords := by
  have hclient : ∀ arguments : List String,
      ofArguments ("client" :: arguments) env = client <$> readClient arguments env := fun _ => rfl
  constructor
  · intro op controllers arguments hop hwords harguments
    refine ⟨_, counts_iff.mpr rfl, ?_⟩
    rw [hclient, readClient, harguments.readWords_eq hwords]
    show client <$> (do pure ⟨_, ← readOp op.toWords⟩) = _
    rw [readOp_toWords hop]
    rfl
  · intro arguments command haccepted
    rw [hclient] at haccepted
    obtain ⟨settings, hread, rfl⟩ := exists_of_map_eq_ok haccepted
    obtain ⟨⟨words, controllers⟩, hsplit, hread⟩ := exists_of_bind_eq_ok hread
    obtain ⟨op, hop, hsettings⟩ := exists_of_bind_eq_ok hread
    cases hsettings
    exact ⟨_, rfl, wellFormed_of_readOp hop (interspersed_of_readWords hsplit).2⟩

/-- Flags with the flag itself as a value stand before, between and behind the words of pairs, of
which keys look like an operation and like the flag and a value has equals signs. -/
theorem client_reads_words_back_between :
    let op : ClientOp := .multiPut ["get", "--controller"] ["--controller", "a=b="]
    let controllers := ["--controller", "", "[::1]:80"]
    let arguments := ["--controller", "--controller", "multiput", "get=--controller",
      "--controller", "", "--controller=a=b=", "--controller", "[::1]:80"]
    let env : Environment := fun _ => some "elsewhere"
    op.WellFormed ∧ "--controller" ∉ op.toWords ∧ Interspersed op.toWords controllers arguments ∧
      ofArguments ("client" :: arguments) env = .ok (.client ⟨"[::1]:80", op⟩) ∧
      ofArguments ["client", "move", "a", "0-0", " +007 - 9"] env =
        .ok (.client ⟨"elsewhere", .move "a" [⟨0, 0⟩, ⟨7, 9⟩]⟩) ∧
      "--controller" ∉ (ClientOp.move "a" [⟨0, 0⟩, ⟨7, 9⟩]).toWords := by
  intro op controllers arguments env
  obtain ⟨hback, honly⟩ := client_reads_words_back env
  have hop : op.WellFormed := ⟨by decide, rfl, by decide⟩
  have hwords : "--controller" ∉ op.toWords := by decide
  have harguments : Interspersed op.toWords controllers arguments :=
    .flag (.word (.word (.flag (.word (.flag .done)))))
  have hmove : ofArguments ["client", "move", "a", "0-0", " +007 - 9"] env =
      .ok (.client ⟨"elsewhere", .move "a" [⟨0, 0⟩, ⟨7, 9⟩]⟩) := by rfl
  obtain ⟨controller, hcounts, hread⟩ := hback op controllers arguments hop hwords harguments
  obtain ⟨settings, hsettings, -, hmoved⟩ := honly _ _ hmove
  obtain rfl : "[::1]:80" = controller := counts_iff.mp hcounts
  cases hsettings
  exact ⟨hop, hwords, harguments, hread, hmove, hmoved⟩

end Command

end Keyspace
