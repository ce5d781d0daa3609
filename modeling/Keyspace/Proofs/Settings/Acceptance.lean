/-
# Which arguments a server and a controller accept

A server accepts exactly the arguments made of its three flags, as long as the values
that count are an address, a number of buckets and the name of an engine. A controller
accepts those made of its two flags, as long as the address that counts is one and there
is a server: all that the flags name, or, if they name none, all that the environment
lists. A controller that starts on accepted arguments owns every key through one of its
servers, and moving shards does not change that.

Only the values that count are looked at. One with a later value of its flag behind it
can be anything, and so can what the environment has for a flag that is given.
-/

import Mathlib
import Keyspace.Proofs.Controller.Partition
import Keyspace.Proofs.Result
import Keyspace.Proofs.Settings.Flags
import Keyspace.Proofs.Text

namespace Keyspace

variable {arguments : List String} {env env' : Environment} {text : String} {count : Nat}
  {flags flags' : Flags} {servers : List String}

/-! ## Texts of settings -/

/-- The name of an engine. -/
def EngineKind.name : EngineKind → String
  | .striped => "striped"
  | .simple => "simple"

theorem readEngine_eq_ok_iff {kind : EngineKind} :
    readEngine text = .ok kind ↔ text = kind.name := by
  constructor
  · intro h
    unfold readEngine at h
    split at h
    · cases h
      rfl
    · cases h
      rfl
    · cases h
  · rintro rfl
    cases kind <;> rfl

theorem readBind_eq_ok_iff {address : SocketAddress} :
    readBind text = .ok address ↔ SocketAddress.ofText? text = some address := by
  unfold readBind
  cases SocketAddress.ofText? text <;> simp

/-- The text is a number of buckets: a decimal numeral of a positive number that fits a machine
word. -/
structure IsBucketCount (text : String) (count : Nat) : Prop where
  denotes : Text.Denotes text.toList count
  pos : 0 < count
  le_max : count ≤ maxBuckets

theorem readBuckets_eq_ok_iff : readBuckets text = .ok count ↔ IsBucketCount text count := by
  have hread : Text.readNumeral maxBuckets text.toList = .ok count ↔
      Text.Denotes text.toList count ∧ count ≤ maxBuckets := Text.readNumeral_eq_ok_iff
  constructor
  · intro h
    unfold readBuckets at h
    split at h
    · cases h
    · cases h
    · rename_i read hne heq
      cases h
      obtain ⟨hdenotes, hle⟩ := hread.mp heq
      exact ⟨hdenotes, Nat.pos_of_ne_zero hne, hle⟩
  · rintro ⟨hdenotes, hpos, hle⟩
    rw [readBuckets, hread.mpr ⟨hdenotes, hle⟩]
    obtain ⟨count, rfl⟩ := Nat.exists_eq_succ_of_ne_zero (Nat.ne_of_gt hpos)
    rfl

/-- The text lists the servers: they are its parts between commas, with the blanks around them taken
off and without those of which nothing is left. -/
def Lists (text : String) (servers : List String) : Prop :=
  ∃ parts names : List String, parts ≠ [] ∧ text = ",".intercalate parts ∧
    (∀ part ∈ parts, ',' ∉ part.toList) ∧
    List.Forall₂ (fun part name => Text.Strips part.toList name.toList) parts names ∧
    servers = names.filter (· ≠ "")

/-- The parts of a text between commas. -/
theorem splitAll_comma_eq_iff {parts : List String} :
    Text.splitAll ',' text.toList = parts.map String.toList ↔
      parts ≠ [] ∧ text = ",".intercalate parts ∧ ∀ part ∈ parts, ',' ∉ part.toList := by
  rw [Text.splitAll_eq_iff, List.forall_mem_map, ← String.toList_inj, String.toList_intercalate]
  exact and_congr_left fun _ => not_congr List.map_eq_nil_iff

/-- The names are the parts with the blanks around them taken off. -/
theorem forall₂_strips_iff {parts names : List String} :
    List.Forall₂ (fun part name => Text.Strips part.toList name.toList) parts names ↔
      parts.map (fun part => String.ofList (Text.trim part.toList)) = names := by
  rw [← List.forall₂_eq_eq_eq, List.forall₂_map_left_iff]
  simp only [← Text.trim_eq_iff_strips, ← String.toList_inj, String.toList_ofList]

/-- The empty ones may be dropped before or after characters become texts. -/
theorem filter_map_ofList (names : List (List Char)) :
    (names.map String.ofList).filter (· ≠ "") = (names.filter (!·.isEmpty)).map String.ofList := by
  rw [List.filter_map]
  congr 2
  funext name
  cases name with
  | nil => rfl
  | cons c name =>
      have hne : String.ofList (c :: name) ≠ "" := fun h => by
        simpa using congrArg String.toList h
      exact decide_eq_true hne

theorem readServerList_of_parts {parts : List String}
    (h : Text.splitAll ',' text.toList = parts.map String.toList) :
    readServerList text =
      (parts.map fun part => String.ofList (Text.trim part.toList)).filter (· ≠ "") := by
  rw [readServerList, h, ← filter_map_ofList, List.map_map, List.map_map]
  rfl

/-- Reading a list of servers finds what the text lists. -/
theorem readServerList_eq_iff : readServerList text = servers ↔ Lists text servers := by
  constructor
  · rintro rfl
    have hparts : Text.splitAll ',' text.toList =
        ((Text.splitAll ',' text.toList).map String.ofList).map String.toList := by
      simp [Function.comp_def]
    obtain ⟨hne, htext, hcomma⟩ := splitAll_comma_eq_iff.mp hparts
    exact ⟨_, _, hne, htext, hcomma, forall₂_strips_iff.mpr rfl, readServerList_of_parts hparts⟩
  · rintro ⟨parts, names, hne, htext, hcomma, hnames, rfl⟩
    rw [readServerList_of_parts (splitAll_comma_eq_iff.mpr ⟨hne, htext, hcomma⟩),
      forall₂_strips_iff.mp hnames]

/-! ## Servers -/

/-- The flags of a server, with the variables that stand in for them. -/
def serverFlags : List (String × Variable) :=
  [("--bind", .bind), ("--buckets", .buckets), ("--engine", .engine)]

/-- The settings are what the flags and the environment say: the values that count are the address,
a text of the number of buckets and the name of the engine. -/
structure ServerSettings.GivenBy (settings : ServerSettings) (flags : Flags) (env : Environment) :
    Prop where
  bind : ∃ text, Counts (flags.values "--bind") (env .bind) defaultServerBind text ∧
    SocketAddress.ofText? text = some settings.bind
  buckets : ∃ text, Counts (flags.values "--buckets") (env .buckets) (toString defaultBucketCount)
    text ∧ IsBucketCount text settings.buckets
  engine : Counts (flags.values "--engine") (env .engine) EngineKind.striped.name
    settings.engine.name

/-- The defaults can be read as if they had been given. -/
theorem readServer_eq : readServer arguments env = (do
    let flags ← readFlags ["--bind", "--buckets", "--engine"] .unexpectedServerArgument arguments
    let bind ← readBind ((flags.effective? "--bind" (env .bind)).getD defaultServerBind)
    let buckets ← readBuckets
      ((flags.effective? "--buckets" (env .buckets)).getD (toString defaultBucketCount))
    let engine ← readEngine
      ((flags.effective? "--engine" (env .engine)).getD EngineKind.striped.name)
    pure ⟨bind, buckets, engine⟩) := by
  have hdefault : readBuckets (toString defaultBucketCount) = .ok defaultBucketCount := by rfl
  unfold readServer
  refine bind_congr fun flags => bind_congr fun bind => ?_
  cases flags.effective? "--buckets" (env .buckets) <;>
    cases flags.effective? "--engine" (env .engine) <;>
    simp only [Option.getD, hdefault] <;> rfl

/-- A server accepts the arguments that its flags make up if the values that count can be read. -/
theorem readServer_eq_ok_iff {settings : ServerSettings} :
    readServer arguments env = .ok settings ↔ ∃ flags : Flags,
      arguments = flags.arguments ∧ flags.names ⊆ serverFlags.map (·.1) ∧
        settings.GivenBy flags env := by
  rw [readServer_eq]
  constructor
  · intro h
    obtain ⟨flags, hflags, h⟩ := exists_of_bind_eq_ok h
    obtain ⟨bind, hbind, h⟩ := exists_of_bind_eq_ok h
    obtain ⟨buckets, hbuckets, h⟩ := exists_of_bind_eq_ok h
    obtain ⟨engine, hengine, h⟩ := exists_of_bind_eq_ok h
    obtain rfl : (⟨bind, buckets, engine⟩ : ServerSettings) = settings := Except.ok.inj h
    obtain ⟨rfl, hnames⟩ := readFlags_eq_ok_iff.mp hflags
    exact ⟨flags, rfl, hnames,
      ⟨_, counts_iff.mpr rfl, readBind_eq_ok_iff.mp hbind⟩,
      ⟨_, counts_iff.mpr rfl, readBuckets_eq_ok_iff.mp hbuckets⟩,
      counts_iff.mpr (readEngine_eq_ok_iff.mp hengine)⟩
  · rintro ⟨flags, rfl, hnames, ⟨bind, hbind, haddress⟩, ⟨buckets, hbuckets, hcount⟩, hengine⟩
    refine bind_eq_ok_iff.mpr ⟨flags, readFlags_eq_ok_iff.mpr ⟨rfl, hnames⟩,
      bind_eq_ok_iff.mpr ⟨settings.bind, ?_, bind_eq_ok_iff.mpr ⟨settings.buckets, ?_,
        bind_eq_ok_iff.mpr ⟨settings.engine, ?_, rfl⟩⟩⟩⟩
    · rw [Flags.effective?, counts_iff.mp hbind, readBind_eq_ok_iff]
      exact haddress
    · rw [Flags.effective?, counts_iff.mp hbuckets, readBuckets_eq_ok_iff]
      exact hcount
    · rw [Flags.effective?, counts_iff.mp hengine, readEngine_eq_ok_iff]

/-- Only the word for a server makes the rest of the arguments those of a server. -/
theorem exists_readServer {settings : ServerSettings}
    (h : Command.ofArguments arguments env = .ok (.server settings)) :
    ∃ rest, arguments = "server" :: rest ∧ readServer rest env = .ok settings := by
  unfold Command.ofArguments at h
  split at h
  case h_2 rest =>
    obtain ⟨read, hread, hcommand⟩ := exists_of_map_eq_ok h
    obtain rfl : read = settings := Command.server.inj hcommand
    exact ⟨rest, rfl, hread⟩
  case h_3 | h_4 =>
    obtain ⟨read, -, hcommand⟩ := exists_of_map_eq_ok h
    exact nomatch hcommand
  all_goals cases h

/-- A server that is to start has a bucket. -/
theorem pos_of_ofArguments {settings : ServerSettings}
    (h : Command.ofArguments arguments env = .ok (.server settings)) : 0 < settings.buckets := by
  obtain ⟨rest, -, hread⟩ := exists_readServer h
  obtain ⟨flags, -, -, hgiven⟩ := readServer_eq_ok_iff.mp hread
  obtain ⟨text, -, hcount⟩ := hgiven.buckets
  exact hcount.pos

/-- What a server makes of its flags depends on the values that count alone. -/
theorem readServer_congr (hnames : flags.names = flags'.names)
    (h : ∀ entry ∈ serverFlags, flags.effective? entry.1 (env entry.2) =
      flags'.effective? entry.1 (env' entry.2)) :
    readServer flags.arguments env = readServer flags'.arguments env' := by
  have hbind := h ("--bind", .bind) (by simp [serverFlags])
  have hbuckets := h ("--buckets", .buckets) (by simp [serverFlags])
  have hengine := h ("--engine", .engine) (by simp [serverFlags])
  rw [readServer_eq, readServer_eq, readFlags_arguments, readFlags_arguments, hnames]
  cases flags'.names.find? (· ∉ ["--bind", "--buckets", "--engine"]) with
  | some word => rfl
  | none =>
      dsimp only [Bind.bind, Except.bind] at hbind hbuckets hengine ⊢
      rw [hbind, hbuckets, hengine]

/-! ## Controllers -/

/-- The servers that a controller is given. -/
def serversGiven (flags : Flags) (env : Environment) : List String :=
  match flags.values "--server" with
  | [] => ((env .servers).map readServerList).getD []
  | servers => servers

/-- The settings are what the flags and the environment say: there are servers, which are all that
the flags name or, if they name none, all that the environment lists. -/
structure ControllerSettings.GivenBy (settings : ControllerSettings) (flags : Flags)
    (env : Environment) : Prop where
  bind : ∃ text, Counts (flags.values "--bind") (env .bind) defaultControllerBind text ∧
    SocketAddress.ofText? text = some settings.bind
  servers : settings.servers = flags.values "--server" ∨ flags.values "--server" = [] ∧
    ∃ text, env .servers = some text ∧ Lists text settings.servers
  nonempty : settings.servers ≠ []

theorem serversGiven_eq_iff (hne : servers ≠ []) : serversGiven flags env = servers ↔
    servers = flags.values "--server" ∨ flags.values "--server" = [] ∧
      ∃ text, env .servers = some text ∧ Lists text servers := by
  unfold serversGiven
  cases flags.values "--server" with
  | nil =>
      cases env .servers with
      | none => simp [hne]
      | some text => simp [hne, readServerList_eq_iff]
  | cons server others =>
      simp [eq_comm]

theorem readController_eq_ok_iff {settings : ControllerSettings} :
    readController arguments env = .ok settings ↔ ∃ flags : Flags,
      arguments = flags.arguments ∧ flags.names ⊆ ["--bind", "--server"] ∧
        settings.GivenBy flags env := by
  have hread : readController arguments env = (do
      let flags ← readFlags ["--bind", "--server"] .unexpectedControllerArgument arguments
      if (serversGiven flags env).isEmpty then .error .noServers
      else
        let bind ← readBind ((flags.effective? "--bind" (env .bind)).getD defaultControllerBind)
        pure ⟨bind, serversGiven flags env⟩) := rfl
  rw [hread]
  constructor
  · intro h
    obtain ⟨flags, hflags, h⟩ := exists_of_bind_eq_ok h
    split_ifs at h with hempty
    obtain ⟨bind, hbind, h⟩ := exists_of_bind_eq_ok h
    obtain rfl : (⟨bind, serversGiven flags env⟩ : ControllerSettings) = settings := Except.ok.inj h
    obtain ⟨rfl, hnames⟩ := readFlags_eq_ok_iff.mp hflags
    have hne : serversGiven flags env ≠ [] := fun hnil => hempty (by rw [hnil]; rfl)
    exact ⟨flags, rfl, hnames, ⟨_, counts_iff.mpr rfl, readBind_eq_ok_iff.mp hbind⟩,
      (serversGiven_eq_iff hne).mp rfl, hne⟩
  · rintro ⟨flags, rfl, hnames, ⟨bind, hbind, haddress⟩, hservers, hne⟩
    have hgiven : serversGiven flags env = settings.servers :=
      (serversGiven_eq_iff hne).mpr hservers
    refine bind_eq_ok_iff.mpr ⟨flags, readFlags_eq_ok_iff.mpr ⟨rfl, hnames⟩, ?_⟩
    rw [hgiven, if_neg (by simpa using hne)]
    refine bind_eq_ok_iff.mpr ⟨settings.bind, ?_, rfl⟩
    rw [Flags.effective?, counts_iff.mp hbind, readBind_eq_ok_iff]
    exact haddress

/-- A controller of at least one server, and of fewer than there are hashes, has one of them own
every key, whatever was moved. -/
theorem Controller.exists_serverOf?_afterMoves (hne : servers ≠ [])
    (hfew : servers.eraseDups.length < UInt32.size) (moves : List Move) (key : String) :
    ∃ server ∈ servers,
      ((ofServers servers).afterMoves moves).current.serverOf? key = some server := by
  have hpartition : ((ofServers servers).afterMoves moves).current.IsPartition :=
    isPartition_afterMoves (isPartition_ofServers hne hfew) moves
  obtain ⟨owner, howns, -⟩ := hpartition.owned (shardHash key)
  obtain ⟨server, hserver⟩ := howns.exists_owner?
  obtain ⟨shards, hshards, -⟩ := Assignment.owns_of_owner? hserver
  have hmem : server ∈ ((ofServers servers).afterMoves moves).current.names :=
    Assignment.mem_names.mpr (Assignment.hasServer_iff.mpr ⟨shards, hshards⟩)
  rw [names_afterMoves, mem_names_ofServers] at hmem
  exact ⟨server, hmem, hserver⟩

/-! ## The main result -/

namespace Command

/-- A server starts exactly on pairs of its flags and values of which those that count can be read,
and then with what they say. A value with another one of the same flag behind it can be anything,
and so can what the environment has for a flag that is there. A controller starts exactly on
pairs of its flags and values if the address that counts can be read and there are servers; and if
they are fewer than there are hashes, one of them owns every key from then on, whatever is moved. -/
theorem starts_on_what_counts (arguments : List String) (env : Environment) :
    (∀ command, ofArguments ("server" :: arguments) env = .ok command ↔
      ∃ (flags : Flags) (settings : ServerSettings), arguments = flags.arguments ∧
        flags.names ⊆ ["--bind", "--buckets", "--engine"] ∧ settings.GivenBy flags env ∧
          command = .server settings) ∧
    (∀ (before after : Flags) (flag value value' : String), flag ∈ after.names →
      ofArguments ("server" :: Flags.arguments (before ++ (flag, value) :: after)) env =
        ofArguments ("server" :: Flags.arguments (before ++ (flag, value') :: after)) env) ∧
    (∀ (flags : Flags) (env' : Environment),
      (∀ entry ∈ serverFlags, entry.1 ∉ flags.names → env entry.2 = env' entry.2) →
        ofArguments ("server" :: flags.arguments) env =
          ofArguments ("server" :: flags.arguments) env') ∧
    (∀ command, ofArguments ("controller" :: arguments) env = .ok command ↔
      ∃ (flags : Flags) (settings : ControllerSettings), arguments = flags.arguments ∧
        flags.names ⊆ ["--bind", "--server"] ∧ settings.GivenBy flags env ∧
          command = .controller settings) ∧
    ∀ settings : ControllerSettings,
      ofArguments ("controller" :: arguments) env = .ok (.controller settings) →
      settings.servers.eraseDups.length < UInt32.size → ∀ (moves : List Move) (key : String),
        ∃ server ∈ settings.servers, ((Controller.ofServers settings.servers).afterMoves
          moves).current.serverOf? key = some server := by
  have hserver : ∀ (words : List String) (env : Environment),
      ofArguments ("server" :: words) env = server <$> readServer words env := fun _ _ => rfl
  have hcontroller : ofArguments ("controller" :: arguments) env =
      controller <$> readController arguments env := rfl
  refine ⟨?_, ?_, ?_, ?_, ?_⟩
  · intro command
    rw [hserver, map_eq_ok_iff]
    simp only [readServer_eq_ok_iff]
    constructor
    · rintro ⟨settings, ⟨flags, rfl, hnames, hgiven⟩, rfl⟩
      exact ⟨flags, settings, rfl, hnames, hgiven, rfl⟩
    · rintro ⟨flags, settings, rfl, hnames, hgiven, rfl⟩
      exact ⟨settings, ⟨flags, rfl, hnames, hgiven⟩, rfl⟩
  · intro before after flag value value' hafter
    rw [hserver, hserver]
    refine congrArg (server <$> ·) (readServer_congr ?_ fun _ _ => ?_)
    · simp [Flags.names]
    · exact Flags.effective?_overridden hafter
  · intro flags env' hsame
    rw [hserver, hserver]
    refine congrArg (server <$> ·) (readServer_congr rfl fun entry hentry => ?_)
    by_cases hflag : entry.1 ∈ flags.names
    · exact Flags.effective?_of_mem hflag
    · rw [hsame entry hentry hflag]
  · intro command
    rw [hcontroller, map_eq_ok_iff]
    simp only [readController_eq_ok_iff]
    constructor
    · rintro ⟨settings, ⟨flags, rfl, hnames, hgiven⟩, rfl⟩
      exact ⟨flags, settings, rfl, hnames, hgiven, rfl⟩
    · rintro ⟨flags, settings, rfl, hnames, hgiven, rfl⟩
      exact ⟨settings, ⟨flags, rfl, hnames, hgiven⟩, rfl⟩
  · intro settings haccepted hfew moves key
    rw [hcontroller, map_eq_ok_iff] at haccepted
    obtain ⟨read, hread, hsettings⟩ := haccepted
    obtain rfl : read = settings := Command.controller.inj hsettings
    obtain ⟨flags, -, -, hgiven⟩ := readController_eq_ok_iff.mp hread
    exact Controller.exists_serverOf?_afterMoves hgiven.nonempty hfew moves key

/-- A flag as a value, a value of zero that another one overrides, and a variable that a flag
overrides; for the controller a list of servers with blanks, an empty name and a repeated one. -/
theorem starts_on_what_counts_overridden :
    let before : Flags := [("--engine", "--bind")]
    let after : Flags := [("--engine", "simple"), ("--buckets", "+12")]
    let arguments := ["--bind", "--server", "--bind", "10.0.0.1:80"]
    let env : Environment := fun
      | .servers => some " b ,,a,b"
      | .buckets => some "many"
      | _ => none
    let settings : ControllerSettings := ⟨.v4 #v[10, 0, 0, 1] 80, ["b", "a", "b"]⟩
    "--buckets" ∈ after.names ∧
      ofArguments ("server" :: Flags.arguments (before ++ ("--buckets", "0") :: after)) env =
        ofArguments ("server" :: Flags.arguments (before ++ ("--buckets", "") :: after)) env ∧
      (∀ entry ∈ serverFlags, entry.1 ∉ after.names → env entry.2 = (none : Option String)) ∧
      ofArguments ("server" :: after.arguments) env =
        ofArguments ("server" :: after.arguments) (fun _ => none) ∧
      ofArguments ("controller" :: arguments) env = .ok (.controller settings) ∧
      settings.servers.eraseDups.length < UInt32.size ∧
      ∃ server ∈ settings.servers, ((Controller.ofServers settings.servers).afterMoves
        [⟨"a", [Shard.full]⟩]).current.serverOf? "key" = some server := by
  intro before after arguments env settings
  obtain ⟨-, hvalue, hvariable, -, howned⟩ := starts_on_what_counts arguments env
  have hafter : "--buckets" ∈ after.names := by decide
  have hsame : ∀ entry ∈ serverFlags, entry.1 ∉ after.names →
      env entry.2 = (none : Option String) := by decide
  have haccepted : ofArguments ("controller" :: arguments) env = .ok (.controller settings) := by
    decide +kernel
  have hfew : settings.servers.eraseDups.length < UInt32.size := by decide
  exact ⟨hafter, hvalue before after _ _ _ hafter, hsame, hvariable after _ hsame, haccepted, hfew,
    howned settings haccepted hfew _ _⟩

end Command

end Keyspace
