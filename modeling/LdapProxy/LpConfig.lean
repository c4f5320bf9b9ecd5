import LdapProxy.IniDictionary

namespace LdapProxy

open LdapProxy.NumberText

/-!
# The settings of the proxy

`lp_config_init` with `parse_conf_file`: the settings are filled from the
dictionary of the configuration file through tables of names and pointers.  A
number is looked up with -1 for "not found", and a text is copied to where the
table points.
-/

/-- `lp_config_t`; the listening address is `NULL` or a text in memory. -/
structure LpConfig where
  logLevel : Int
  maxThreads : Int
  taskManagerNum : Int
  ldapNum : Int
  mysqlNum : Int
  threadStackSize : Nat
  maxConnections : Int
  listeningIp : Option (List UInt8)
  listeningPort : Int
  timeout : Int
  deriving DecidableEq

/-- `lp_configs`, and the variable `thread_stack_size` of `lp_config_init`. -/
structure ConfigMemory where
  lpConfigs : LpConfig
  threadStackSize : Int

/-- What the functions cannot survive. -/
inductive ConfigFault where
  /-- `strtol(NULL)` -/
  | readsNull
  /-- `strncpy(NULL, s)` -/
  | writesNull
  deriving DecidableEq

/-- `int *` -/
structure IntPointer where
  load : ConfigMemory → Int
  store : Int → ConfigMemory → ConfigMemory
  store_load : ∀ memory, store (load memory) memory = memory

/-- `struct conf_int_config` -/
structure ConfIntConfig where
  configName : List UInt8
  var : IntPointer

/-- `struct conf_str_config`; what is written through the pointer, if any. -/
structure ConfStrConfig where
  configName : List UInt8
  var : Option (List UInt8 → ConfigMemory → ConfigMemory)

/-- `CONF_ITEM_LEN` -/
def confItemLen : Nat :=
  63

/-- `ASCIILINESZ` -/
def asciiLineSz : Nat :=
  1024

/-- `strlwc` -/
def strlwc (s : List UInt8) : List UInt8 :=
  (s.take asciiLineSz).map toLower

/-- `snprintf(buf, CONF_ITEM_LEN, "%s:%s", mod_name, config_name)` -/
def confItem (modName configName : List UInt8) : List UInt8 :=
  (modName ++ ascii ":" ++ configName).take (confItemLen - 1)

/-- `iniparser_getstring` -/
def iniparserGetstring
    (d : Dictionary)
    (key : List UInt8)
    (absent : StringPointer) :
    StringPointer :=
  dictionaryGet d (strlwc key) absent

/-- `iniparser_getint` -/
def iniparserGetint
    (d : Dictionary)
    (key : List UInt8)
    (notfound : Int) :
    Except ConfigFault Int :=
  match iniparserGetstring d key .invalidKey with
  | .invalidKey =>
      .ok notfound
  | .null =>
      .error .readsNull
  | .string str =>
      .ok (toInt (strtol str))

/-- The first loop of `parse_conf_file`. -/
def parseInts (conf : Dictionary) (modName : List UInt8) :
    List ConfIntConfig → ConfigMemory → Except ConfigFault ConfigMemory
  | [], memory =>
      .ok memory
  | cicp :: rest, memory =>
      match iniparserGetint conf (confItem modName cicp.configName) (-1) with
      | .error fault =>
          .error fault
      | .ok i =>
          parseInts conf modName rest
            (if i ≠ -1 then cicp.var.store i memory else memory)

/-- The second loop of `parse_conf_file`. -/
def parseStrs (conf : Dictionary) (modName : List UInt8) :
    List ConfStrConfig → ConfigMemory → Except ConfigFault ConfigMemory
  | [], memory =>
      .ok memory
  | cscp :: rest, memory =>
      match iniparserGetstring conf (confItem modName cscp.configName)
        .null with
      | .string s =>
          match cscp.var with
          | none =>
              .error .writesNull
          | some var =>
              parseStrs conf modName rest
                (var (s.take (confItemLen + 1)) memory)
      | _ =>
          parseStrs conf modName rest memory

/-- `parse_conf_file` with a dictionary and a name. -/
def parseConfFile
    (conf : Dictionary)
    (modName : List UInt8)
    (cic : List ConfIntConfig)
    (csc : List ConfStrConfig)
    (memory : ConfigMemory) :
    Except ConfigFault ConfigMemory :=
  (parseInts conf modName cic memory).bind (parseStrs conf modName csc)

/-- The defaults of `lp_config_init`. -/
def LpConfig.default : LpConfig where
  logLevel := 3
  maxThreads := 128
  taskManagerNum := 1
  ldapNum := 4
  mysqlNum := 8
  threadStackSize := 2 * 1024
  maxConnections := 2 * 1024
  listeningIp := none
  listeningPort := 389
  timeout := 30

/-- `log_conf` -/
def logConf : List ConfIntConfig :=
  [{ configName := ascii "log_level"
     var :=
       { load := fun m => m.lpConfigs.logLevel
         store := fun i m => { m with lpConfigs.logLevel := i }
         store_load := fun _ => rfl } }]

/-- `server_str_conf`, whose pointer is the value of `listening_ip`. -/
def serverStrConf (listeningIp : Option (List UInt8)) : List ConfStrConfig :=
  [{ configName := ascii "listening"
     var :=
       listeningIp.map fun _ s m =>
         { m with lpConfigs.listeningIp := some s } }]

/-- `server_int_conf` -/
def serverIntConf : List ConfIntConfig :=
  [{ configName := ascii "port"
     var :=
       { load := fun m => m.lpConfigs.listeningPort
         store := fun i m => { m with lpConfigs.listeningPort := i }
         store_load := fun _ => rfl } },
   { configName := ascii "max_connections"
     var :=
       { load := fun m => m.lpConfigs.maxConnections
         store := fun i m => { m with lpConfigs.maxConnections := i }
         store_load := fun _ => rfl } },
   { configName := ascii "timeout"
     var :=
       { load := fun m => m.lpConfigs.timeout
         store := fun i m => { m with lpConfigs.timeout := i }
         store_load := fun _ => rfl } }]

/-- `thread_conf` -/
def threadConf : List ConfIntConfig :=
  [{ configName := ascii "max_threads"
     var :=
       { load := fun m => m.lpConfigs.maxThreads
         store := fun i m => { m with lpConfigs.maxThreads := i }
         store_load := fun _ => rfl } },
   { configName := ascii "thread_stack_size"
     var :=
       { load := fun m => m.threadStackSize
         store := fun i m => { m with threadStackSize := i }
         store_load := fun _ => rfl } },
   { configName := ascii "task_manager_num"
     var :=
       { load := fun m => m.lpConfigs.taskManagerNum
         store := fun i m => { m with lpConfigs.taskManagerNum := i }
         store_load := fun _ => rfl } },
   { configName := ascii "ldap_num"
     var :=
       { load := fun m => m.lpConfigs.ldapNum
         store := fun i m => { m with lpConfigs.ldapNum := i }
         store_load := fun _ => rfl } },
   { configName := ascii "mysql_num"
     var :=
       { load := fun m => m.lpConfigs.mysqlNum
         store := fun i m => { m with lpConfigs.mysqlNum := i }
         store_load := fun _ => rfl } }]

/-- The conversion to `size_t`. -/
def toSize (value : Int) : Nat :=
  (value % 2 ^ 64).toNat

/-- The stack size in bytes, from the configured one in KBytes. -/
def ConfigMemory.stackBytes (memory : ConfigMemory) : ConfigMemory :=
  { memory with
    lpConfigs.threadStackSize :=
      (if memory.threadStackSize = 0 then
        memory.lpConfigs.threadStackSize
      else
        toSize memory.threadStackSize) * 1024 % 2 ^ 64 }

/--
`lp_config_init`, for the dictionary that `open_conf_file` returns, or `NULL`.
-/
def lpConfigInit (conf : Option Dictionary) : Except ConfigFault LpConfig :=
  match conf with
  | none =>
      .ok
        { LpConfig.default with
          threadStackSize := LpConfig.default.threadStackSize * 1024 }
  | some conf =>
      let serverStrConf := serverStrConf LpConfig.default.listeningIp
      let memory : ConfigMemory :=
        { lpConfigs := .default
          threadStackSize := 0 }
      (parseConfFile conf (ascii "thread") threadConf [] memory).bind
        fun memory =>
          (parseConfFile conf (ascii "server") serverIntConf serverStrConf
              memory.stackBytes).bind
            fun memory =>
              (parseConfFile conf (ascii "log") logConf [] memory).bind
                fun memory => .ok memory.lpConfigs

/-- The value of a key in the dictionary, if there is a dictionary. -/
def presentValue
    (conf : Option Dictionary)
    (key : List UInt8) :
    Option (Option (List UInt8)) :=
  conf.bind (·.lookup key)

/-- The number that a text is for `iniparser_getint`. -/
def numberOf (text : List UInt8) : Int :=
  toInt (strtol text)

/-- A value of type `int`. -/
def IsInt (value : Int) : Prop :=
  -2 ^ 31 ≤ value ∧ value < 2 ^ 31

/-- The value of a text is its number exactly when this is an `int`. -/
theorem numberOf_eq_iff (text : List UInt8) :
    numberOf text = textNumber text ↔ IsInt (textNumber text) := by
  constructor
  · intro kept
    rw [← kept]
    exact toInt_bounds _
  · rintro ⟨low, high⟩
    have isLong : strtol text = textNumber text := by
      rw [strtol_eq]
      omega
    rw [numberOf, isLong, toInt_eq low high]

/-- A number that `lp_config_init` reads, with its default. -/
structure NumberSetting where
  key : List UInt8
  default : Int
  value : LpConfig → Int

/-- All numbers but the stack size. -/
def numberSettings : List NumberSetting :=
  [⟨ascii "thread:max_threads", 128, LpConfig.maxThreads⟩,
   ⟨ascii "thread:task_manager_num", 1, LpConfig.taskManagerNum⟩,
   ⟨ascii "thread:ldap_num", 4, LpConfig.ldapNum⟩,
   ⟨ascii "thread:mysql_num", 8, LpConfig.mysqlNum⟩,
   ⟨ascii "server:port", 389, LpConfig.listeningPort⟩,
   ⟨ascii "server:max_connections", 2048, LpConfig.maxConnections⟩,
   ⟨ascii "server:timeout", 30, LpConfig.timeout⟩,
   ⟨ascii "log:log_level", 3, LpConfig.logLevel⟩]

/-- The key of the stack size, in KBytes. -/
def stackKey : List UInt8 :=
  ascii "thread:thread_stack_size"

/-- The key of the listening address. -/
def listeningKey : List UInt8 :=
  ascii "server:listening"

/-- A value is the one of the dictionary, or the default without one. -/
def SettingHolds
    {Value : Type}
    (convert : List UInt8 → Value)
    (found : Option (Option (List UInt8)))
    (default value : Value) :
    Prop :=
  (found = none ∧ value = default) ∨
    ∃ text, found = some (some text) ∧ value = convert text

/--
Every setting holds the number of its key, whatever its size, or the default
if the key is not there.
-/
structure SettingsRead (conf : Option Dictionary) (configs : LpConfig) :
    Prop where
  numbers :
    ∀ setting ∈ numberSettings,
      SettingHolds textNumber (presentValue conf setting.key) setting.default
        (setting.value configs)
  stack :
    SettingHolds (fun text => textNumber text * 1024)
      (presentValue conf stackKey) (2 * 1024 * 1024)
      (configs.threadStackSize : Int)
  listening :
    configs.listeningIp = (presentValue conf listeningKey).join

/-- The keys whose numbers are read. -/
def numberKeys : List (List UInt8) :=
  stackKey :: numberSettings.map NumberSetting.key

/-- A number that is kept: an `int`, and not the one for "not found". -/
def KeptNumber (number : Int) : Prop :=
  IsInt number ∧ number ≠ -1

/--
A number of KBytes whose bytes are kept: a positive `int`.  Just below `2 ^ 54`
the truncation to `int` and the wrapping of the product cancel.
-/
def KeptKBytes (kilobytes : Int) : Prop :=
  (0 < kilobytes ∧ kilobytes < 2 ^ 31) ∨
    (2 ^ 54 - 2 ^ 31 ≤ kilobytes ∧ kilobytes < 2 ^ 54 - 1)

/--
Every number that is there has a text and can be kept, and no listening address
is given.
-/
structure SuitableConfig (conf : Option Dictionary) : Prop where
  numbers :
    ∀ setting ∈ numberSettings,
      ∀ val,
        presentValue conf setting.key = some val →
        ∃ text, val = some text ∧ KeptNumber (textNumber text)
  stack :
    ∀ val,
      presentValue conf stackKey = some val →
      ∃ text, val = some text ∧ KeptKBytes (textNumber text)
  listening :
    ∀ text, presentValue conf listeningKey ≠ some (some text)

/-- The key that is looked up for an entry of a table. -/
def settingKey (modName configName : List UInt8) : List UInt8 :=
  strlwc (confItem modName configName)

/-- The keys that a table looks up. -/
def tableKeys (modName : List UInt8) (cic : List ConfIntConfig) :
    List (List UInt8) :=
  cic.map fun cicp => settingKey modName cicp.configName

/-- The number that a loop stores for what it finds. -/
def storedNumber (found : Option (Option (List UInt8))) : Option Int :=
  found.join.bind fun text =>
    if numberOf text = -1 then none else some (numberOf text)

/-- A loop stores a number that is not -1. -/
theorem storedNumber_text (text : List UInt8) :
    storedNumber (some (some text)) =
      if numberOf text = -1 then none else some (numberOf text) :=
  rfl

/-- What `iniparser_getint` finds. -/
theorem iniparserGetint_eq
    (d : Dictionary)
    (key : List UInt8)
    (notfound : Int) :
    iniparserGetint d key notfound =
      (d.lookup (strlwc key)).elim (.ok notfound) fun val =>
        val.elim (.error .readsNull) fun text => .ok (numberOf text) := by
  rw [iniparserGetint, iniparserGetstring, dictionaryGet_eq]
  cases d.lookup (strlwc key) with
  | none =>
      rfl
  | some val =>
      cases val with
      | none =>
          rfl
      | some text =>
          rfl

/-- The memory after the numbers of a table are stored. -/
def storeNumbers
    (conf : Dictionary)
    (modName : List UInt8)
    (cic : List ConfIntConfig)
    (memory : ConfigMemory) :
    ConfigMemory :=
  cic.foldl
    (fun memory cicp =>
      cicp.var.store
        ((storedNumber (conf.lookup (settingKey modName cicp.configName))).getD
          (cicp.var.load memory))
        memory)
    memory

/-- A turn of the first loop fails, or stores a number that is found. -/
theorem getint_cases (conf : Dictionary) (modName configName : List UInt8) :
    let found := conf.lookup (settingKey modName configName)
    let got := iniparserGetint conf (confItem modName configName) (-1)
    (found = some none ∧ got = .error .readsNull) ∨
      (found ≠ some none ∧
        ∃ i,
          got = .ok i ∧
            ∀ (var : IntPointer) memory,
              (if i ≠ -1 then var.store i memory else memory) =
                var.store ((storedNumber found).getD (var.load memory))
                  memory) := by
  intro found got
  have isGot : got = iniparserGetint conf (confItem modName configName) (-1) :=
    rfl
  rw [iniparserGetint_eq] at isGot
  have isFound :
      conf.lookup (strlwc (confItem modName configName)) = found :=
    rfl
  rw [isFound] at isGot
  cases value : found with
  | none =>
      rw [value] at isGot
      refine .inr ⟨nofun, -1, isGot, ?_⟩
      intro var memory
      exact (var.store_load memory).symm
  | some val =>
      rw [value] at isGot
      cases val with
      | none =>
          exact .inl ⟨rfl, isGot⟩
      | some text =>
          refine .inr ⟨nofun, numberOf text, isGot, ?_⟩
          intro var memory
          by_cases inBand : numberOf text = -1
          · rw [storedNumber_text, if_pos inBand,
              if_neg fun other => other inBand]
            exact (var.store_load memory).symm
          · rw [storedNumber_text, if_neg inBand, if_pos inBand]
            rfl

/-- The first loop ends when no number is missing behind its key. -/
theorem parseInts_ok_iff
    {conf : Dictionary}
    {modName : List UInt8}
    {cic : List ConfIntConfig}
    {memory after : ConfigMemory} :
    parseInts conf modName cic memory = .ok after ↔
      (∀ key ∈ tableKeys modName cic, conf.lookup key ≠ some none) ∧
        after = storeNumbers conf modName cic memory := by
  induction cic generalizing memory with
  | nil =>
      constructor
      · rintro ⟨⟩
        exact ⟨nofun, rfl⟩
      · rintro ⟨-, rfl⟩
        rfl
  | cons cicp rest inductionHypothesis =>
      rw [parseInts, tableKeys, List.map_cons, List.forall_mem_cons]
      obtain ⟨missing, failed⟩ | ⟨readable, i, got, stored⟩ :=
        getint_cases conf modName cicp.configName
      · rw [failed]
        constructor
        · rintro ⟨⟩
        · rintro ⟨⟨notMissing, -⟩, -⟩
          exact (notMissing missing).elim
      · have later :
            storeNumbers conf modName (cicp :: rest) memory =
              storeNumbers conf modName rest
                (if i ≠ -1 then cicp.var.store i memory else memory) := by
          rw [stored]
          rfl
        rw [got, later]
        refine inductionHypothesis.trans (and_congr_left fun _ => ?_)
        exact ⟨fun rest => ⟨readable, rest⟩, And.right⟩

/-- A step that ends has ended in both of its parts. -/
theorem bind_ok_iff
    {Fault First Second : Type}
    {first : Except Fault First}
    {second : First → Except Fault Second}
    {result : Second} :
    first.bind second = .ok result ↔
      ∃ middle, first = .ok middle ∧ second middle = .ok result := by
  cases first with
  | error fault =>
      exact ⟨nofun, fun ⟨_, ended, _⟩ => nomatch ended⟩
  | ok middle =>
      constructor
      · intro ended
        exact ⟨middle, rfl, ended⟩
      · rintro ⟨_, ⟨⟩, ended⟩
        exact ended

/-- Through `NULL`, the second loop ends when there is nothing to copy. -/
theorem parseStrs_null_ok_iff
    {conf : Dictionary}
    {modName configName : List UInt8}
    {memory after : ConfigMemory} :
    parseStrs conf modName [{ configName := configName, var := none }]
        memory = .ok after ↔
      (∀ text,
        conf.lookup (settingKey modName configName) ≠ some (some text)) ∧
        after = memory := by
  have found :
      iniparserGetstring conf (confItem modName configName) .null =
        (conf.lookup (settingKey modName configName)).elim .null
          fun val => val.elim .null .string :=
    dictionaryGet_eq ..
  unfold parseStrs
  rw [found]
  cases conf.lookup (settingKey modName configName) with
  | none =>
      constructor
      · rintro ⟨⟩
        exact ⟨nofun, rfl⟩
      · rintro ⟨-, rfl⟩
        rfl
  | some val =>
      cases val with
      | none =>
          constructor
          · rintro ⟨⟩
            exact ⟨nofun, rfl⟩
          · rintro ⟨-, rfl⟩
            rfl
      | some text =>
          constructor
          · rintro ⟨⟩
          · rintro ⟨notGiven, -⟩
            exact (notGiven text rfl).elim

/-- A section with numbers only. -/
theorem parseConfFile_ints_ok_iff
    {conf : Dictionary}
    {modName : List UInt8}
    {cic : List ConfIntConfig}
    {memory after : ConfigMemory} :
    parseConfFile conf modName cic [] memory = .ok after ↔
      (∀ key ∈ tableKeys modName cic, conf.lookup key ≠ some none) ∧
        after = storeNumbers conf modName cic memory := by
  rw [parseConfFile, bind_ok_iff, ← parseInts_ok_iff]
  constructor
  · rintro ⟨middle, parsed, ⟨⟩⟩
    exact parsed
  · intro parsed
    exact ⟨after, parsed, rfl⟩

/-- A section with numbers, and a text for which there is no memory. -/
theorem parseConfFile_null_ok_iff
    {conf : Dictionary}
    {modName configName : List UInt8}
    {cic : List ConfIntConfig}
    {memory after : ConfigMemory} :
    parseConfFile conf modName cic
        [{ configName := configName, var := none }] memory = .ok after ↔
      (∀ key ∈ tableKeys modName cic, conf.lookup key ≠ some none) ∧
        (∀ text,
          conf.lookup (settingKey modName configName) ≠
            some (some text)) ∧
        after = storeNumbers conf modName cic memory := by
  rw [parseConfFile, bind_ok_iff]
  constructor
  · rintro ⟨middle, parsed, copied⟩
    obtain ⟨readable, rfl⟩ := parseInts_ok_iff.mp parsed
    obtain ⟨notGiven, rfl⟩ := parseStrs_null_ok_iff.mp copied
    exact ⟨readable, notGiven, rfl⟩
  · rintro ⟨readable, notGiven, rfl⟩
    exact
      ⟨_, parseInts_ok_iff.mpr ⟨readable, rfl⟩,
        parseStrs_null_ok_iff.mpr ⟨notGiven, rfl⟩⟩

/-- A number of the dictionary, or its default. -/
def Dictionary.number (conf : Dictionary) (key : List UInt8) (default : Int) :
    Int :=
  (storedNumber (conf.lookup key)).getD default

/-- The stack size that is left for a number of KBytes. -/
def stackSize (kilobytes : Int) : Nat :=
  (if kilobytes = 0 then 2 * 1024 else toSize kilobytes) * 1024 % 2 ^ 64

/-- The settings that `lp_config_init` leaves when it ends. -/
def configured (conf : Dictionary) : LpConfig where
  logLevel := conf.number (ascii "log:log_level") 3
  maxThreads := conf.number (ascii "thread:max_threads") 128
  taskManagerNum := conf.number (ascii "thread:task_manager_num") 1
  ldapNum := conf.number (ascii "thread:ldap_num") 4
  mysqlNum := conf.number (ascii "thread:mysql_num") 8
  threadStackSize := stackSize (conf.number stackKey 0)
  maxConnections := conf.number (ascii "server:max_connections") 2048
  listeningIp := none
  listeningPort := conf.number (ascii "server:port") 389
  timeout := conf.number (ascii "server:timeout") 30

/-- The tables store these settings. -/
theorem storeNumbers_eq (conf : Dictionary) :
    (storeNumbers conf (ascii "log") logConf
        (storeNumbers conf (ascii "server") serverIntConf
          (storeNumbers conf (ascii "thread") threadConf
            { lpConfigs := .default
              threadStackSize := 0 }).stackBytes)).lpConfigs =
      configured conf :=
  rfl

/-- The tables look up the keys of the numbers. -/
theorem numberKeys_perm :
    (tableKeys (ascii "thread") threadConf ++
        (tableKeys (ascii "server") serverIntConf ++
          tableKeys (ascii "log") logConf)).Perm
      numberKeys := by
  decide

/--
`lp_config_init` ends exactly when no number is missing behind its key and no
listening address is given.
-/
theorem lpConfigInit_ok_iff
    {conf : Dictionary}
    {configs : LpConfig} :
    lpConfigInit (some conf) = .ok configs ↔
      (∀ key ∈ numberKeys, conf.lookup key ≠ some none) ∧
        (∀ text, conf.lookup listeningKey ≠ some (some text)) ∧
        configs = configured conf := by
  have keys :
      (∀ key ∈ numberKeys, conf.lookup key ≠ some none) ↔
        (∀ key ∈ tableKeys (ascii "thread") threadConf,
          conf.lookup key ≠ some none) ∧
        (∀ key ∈ tableKeys (ascii "server") serverIntConf,
          conf.lookup key ≠ some none) ∧
        ∀ key ∈ tableKeys (ascii "log") logConf,
          conf.lookup key ≠ some none := by
    rw [← List.forall_mem_append, ← List.forall_mem_append]
    exact forall_congr' fun key =>
      imp_congr_left numberKeys_perm.mem_iff.symm
  have listening :
      settingKey (ascii "server") (ascii "listening") = listeningKey :=
    rfl
  unfold lpConfigInit
  rw [bind_ok_iff, keys]
  constructor
  · rintro ⟨threads, threadsParsed, ended⟩
    obtain ⟨threadKeys, rfl⟩ := parseConfFile_ints_ok_iff.mp threadsParsed
    obtain ⟨servers, serversParsed, ended⟩ := bind_ok_iff.mp ended
    obtain ⟨serverKeys, notGiven, rfl⟩ :=
      parseConfFile_null_ok_iff.mp serversParsed
    obtain ⟨logs, logsParsed, ⟨⟩⟩ := bind_ok_iff.mp ended
    obtain ⟨logKeys, rfl⟩ := parseConfFile_ints_ok_iff.mp logsParsed
    rw [listening] at notGiven
    exact
      ⟨⟨threadKeys, serverKeys, logKeys⟩, notGiven, storeNumbers_eq conf⟩
  · rintro ⟨⟨threadKeys, serverKeys, logKeys⟩, notGiven, rfl⟩
    rw [← listening] at notGiven
    refine
      ⟨_, parseConfFile_ints_ok_iff.mpr ⟨threadKeys, rfl⟩,
        bind_ok_iff.mpr
          ⟨_, parseConfFile_null_ok_iff.mpr ⟨serverKeys, notGiven, rfl⟩,
            bind_ok_iff.mpr
              ⟨_, parseConfFile_ints_ok_iff.mpr ⟨logKeys, rfl⟩, ?_⟩⟩⟩
    exact congrArg Except.ok (storeNumbers_eq conf)

/-- The number that is left for a text. -/
theorem number_text
    {conf : Dictionary}
    {key text : List UInt8}
    (found : conf.lookup key = some (some text))
    (default : Int) :
    conf.number key default =
      if numberOf text = -1 then default else numberOf text := by
  rw [Dictionary.number, found, storedNumber_text]
  by_cases inBand : numberOf text = -1
  · rw [if_pos inBand, if_pos inBand]
    rfl
  · rw [if_neg inBand, if_neg inBand]
    rfl

/-- The number that is left without a key. -/
theorem number_none
    {conf : Dictionary}
    {key : List UInt8}
    (absent : conf.lookup key = none)
    (default : Int) :
    conf.number key default = default := by
  rw [Dictionary.number, absent]
  rfl

/-- A setting holds its value exactly when a text that is there is kept. -/
theorem settingHolds_iff
    {Value : Type}
    {convert : List UInt8 → Value}
    {found : Option (Option (List UInt8))}
    {default value : Value}
    {kept : List UInt8 → Prop}
    (readable : found ≠ some none)
    (absent : found = none → value = default)
    (given :
      ∀ text, found = some (some text) → (value = convert text ↔ kept text)) :
    SettingHolds convert found default value ↔
      ∀ text, found = some (some text) → kept text := by
  constructor
  · rintro (⟨notThere, -⟩ | ⟨text, isText, same⟩) other isOther
    · rw [notThere] at isOther
      cases isOther
    · rw [isText] at isOther
      cases isOther
      exact (given text isText).mp same
  · intro texts
    rcases found with _ | _ | text
    · exact .inl ⟨rfl, absent rfl⟩
    · exact (readable rfl).elim
    · exact .inr ⟨text, rfl, (given text rfl).mpr (texts text rfl)⟩

/-- The number of a text is read exactly when it can be kept. -/
theorem number_text_iff
    {default : Int}
    (stored : KeptNumber default)
    (text : List UInt8) :
    (if numberOf text = -1 then default else numberOf text) =
        textNumber text ↔
      KeptNumber (textNumber text) := by
  constructor
  · intro same
    by_cases inBand : numberOf text = -1
    · -- the default would have to be the number, which is then not -1
      rw [if_pos inBand] at same
      rw [same] at stored
      have kept := (numberOf_eq_iff text).mpr stored.1
      exact (stored.2 (kept.symm.trans inBand)).elim
    · rw [if_neg inBand] at same
      refine ⟨(numberOf_eq_iff text).mp same, ?_⟩
      rw [← same]
      exact inBand
  · rintro ⟨isInt, notInBand⟩
    rw [(numberOf_eq_iff text).mpr isInt, if_neg notInBand]

/-- A number is read exactly when it can be kept. -/
theorem number_holds_iff
    {conf : Dictionary}
    {key : List UInt8}
    {default : Int}
    (readable : conf.lookup key ≠ some none)
    (stored : KeptNumber default) :
    SettingHolds textNumber (conf.lookup key) default
        (conf.number key default) ↔
      ∀ text,
        conf.lookup key = some (some text) →
        KeptNumber (textNumber text) := by
  refine settingHolds_iff readable (fun absent => number_none absent default) ?_
  intro text found
  rw [number_text found]
  exact number_text_iff stored text

/-- A positive number of KBytes is not too large. -/
theorem stackSize_positive
    {kilobytes : Int}
    (positive : 0 < kilobytes)
    (high : kilobytes < 2 ^ 31) :
    (stackSize kilobytes : Int) = kilobytes * 1024 := by
  unfold stackSize toSize
  rw [if_neg positive.ne']
  omega

/-- A negative number of KBytes wraps around. -/
theorem stackSize_negative
    {kilobytes : Int}
    (negative : kilobytes < 0)
    (low : -2 ^ 31 ≤ kilobytes) :
    (stackSize kilobytes : Int) = (2 ^ 54 + kilobytes) * 1024 := by
  unfold stackSize toSize
  rw [if_neg negative.ne]
  omega

/-- Just below `2 ^ 54` the truncation takes `2 ^ 54` away. -/
theorem numberOf_truncated
    {text : List UInt8}
    (low : 2 ^ 54 - 2 ^ 31 ≤ textNumber text)
    (high : textNumber text < 2 ^ 54) :
    numberOf text = textNumber text - 2 ^ 54 := by
  have isLong : strtol text = textNumber text := by
    rw [strtol_eq]
    omega
  have above :
      textNumber text = textNumber text - 2 ^ 54 + 2 ^ 32 * 2 ^ 22 := by
    omega
  calc numberOf text
      = toInt (textNumber text) := congrArg toInt isLong
    _ = toInt (textNumber text - 2 ^ 54 + 2 ^ 32 * 2 ^ 22) :=
        congrArg toInt above
    _ = toInt (textNumber text - 2 ^ 54) := Int.add_mul_bmod_self_left ..
    _ = textNumber text - 2 ^ 54 := toInt_eq (by omega) (by omega)

/-- The number of KBytes that is left for a text. -/
def kBytesOf (text : List UInt8) : Int :=
  if numberOf text = -1 then 0 else numberOf text

/-- The stack size of a text is read exactly when it can be kept. -/
theorem stackSize_text_iff (text : List UInt8) :
    (stackSize (kBytesOf text) : Int) = textNumber text * 1024 ↔
      KeptKBytes (textNumber text) := by
  have isInt : IsInt (numberOf text) := toInt_bounds _
  constructor
  · intro same
    by_cases missing : kBytesOf text = 0
    · have isDefault : (stackSize 0 : Int) = 2048 * 1024 := rfl
      rw [missing, isDefault] at same
      have number : textNumber text = 2048 := by omega
      have kept := (numberOf_eq_iff text).mpr (number ▸ ⟨by decide, by decide⟩)
      rw [kBytesOf, kept, number] at missing
      cases missing
    · have notInBand : numberOf text ≠ -1 := by
        intro inBand
        exact missing (if_pos inBand)
      rw [kBytesOf, if_neg notInBand] at missing same
      rcases lt_or_gt_of_ne missing with negative | positive
      · rw [stackSize_negative negative isInt.1] at same
        have low := isInt.1
        exact .inr ⟨by omega, by omega⟩
      · rw [stackSize_positive positive isInt.2] at same
        have high := isInt.2
        exact .inl ⟨by omega, by omega⟩
  · rintro (⟨positive, high⟩ | ⟨low, high⟩)
    · have kept := (numberOf_eq_iff text).mpr ⟨by omega, high⟩
      rw [kBytesOf, kept, if_neg (by omega), stackSize_positive positive high]
    · have truncated := numberOf_truncated low (by omega)
      rw [kBytesOf, truncated, if_neg (by omega),
        stackSize_negative (by omega) (by omega)]
      omega

/-- The stack size is read exactly when it can be kept. -/
theorem stack_holds_iff
    {conf : Dictionary}
    (readable : conf.lookup stackKey ≠ some none) :
    SettingHolds (fun text => textNumber text * 1024)
        (conf.lookup stackKey) (2 * 1024 * 1024)
        (stackSize (conf.number stackKey 0) : Int) ↔
      ∀ text,
        conf.lookup stackKey = some (some text) →
        KeptKBytes (textNumber text) := by
  refine settingHolds_iff readable ?_ ?_
  · intro absent
    rw [number_none absent]
    rfl
  · intro text found
    have isText : conf.number stackKey 0 = kBytesOf text :=
      number_text found 0
    rw [isText]
    exact stackSize_text_iff text

/-- The tables hold the numbers that are left; the defaults can be kept. -/
theorem numberSettings_configured (conf : Dictionary) :
    ∀ setting ∈ numberSettings,
      KeptNumber setting.default ∧
        setting.value (configured conf) =
          conf.number setting.key setting.default := by
  have stored : ∀ setting ∈ numberSettings, KeptNumber setting.default := by
    intro setting member
    have bounds :
        ∀ setting ∈ numberSettings,
          0 < setting.default ∧ setting.default < 2 ^ 31 := by
      decide
    obtain ⟨positive, high⟩ := bounds setting member
    exact ⟨⟨by omega, high⟩, by omega⟩
  have values :
      ∀ setting ∈ numberSettings,
        setting.value (configured conf) =
          conf.number setting.key setting.default := by
    simp only [numberSettings, List.forall_mem_cons]
    exact
      ⟨rfl, rfl, rfl, rfl, rfl, rfl, rfl, rfl, fun _ member => nomatch member⟩
  exact fun setting member => ⟨stored setting member, values setting member⟩

/-- A dictionary is suitable if its keys have texts for the right numbers. -/
theorem suitable_iff {conf : Dictionary} :
    SuitableConfig (some conf) ↔
      (∀ key ∈ numberKeys, conf.lookup key ≠ some none) ∧
        (∀ text, conf.lookup listeningKey ≠ some (some text)) ∧
        (∀ setting ∈ numberSettings,
          ∀ text,
            conf.lookup setting.key = some (some text) →
            KeptNumber (textNumber text)) ∧
        ∀ text,
          conf.lookup stackKey = some (some text) →
          KeptKBytes (textNumber text) := by
  constructor
  · intro suitable
    refine ⟨?_, suitable.listening, ?_, ?_⟩
    · intro key isNumber missing
      rcases List.mem_cons.mp isNumber with rfl | inSettings
      · obtain ⟨text, ⟨⟩, -⟩ := suitable.stack _ missing
      · obtain ⟨setting, member, rfl⟩ := List.mem_map.mp inSettings
        obtain ⟨text, ⟨⟩, -⟩ := suitable.numbers setting member _ missing
    · intro setting member text found
      obtain ⟨_, ⟨⟩, stored⟩ := suitable.numbers setting member _ found
      exact stored
    · intro text found
      obtain ⟨_, ⟨⟩, stored⟩ := suitable.stack _ found
      exact stored
  · rintro ⟨readable, notGiven, numbers, stack⟩
    refine ⟨?_, ?_, notGiven⟩
    · intro setting member val found
      cases val with
      | none =>
          refine (readable setting.key ?_ found).elim
          exact List.mem_cons_of_mem _ (List.mem_map_of_mem member)
      | some text =>
          exact ⟨text, rfl, numbers setting member text found⟩
    · intro val found
      cases val with
      | none =>
          exact (readable stackKey (List.mem_cons_self ..) found).elim
      | some text =>
          exact ⟨text, rfl, stack text found⟩

/-- What `lp_config_init` leaves when it ends, against what it should leave. -/
theorem settingsRead_iff
    {conf : Dictionary}
    (readable : ∀ key ∈ numberKeys, conf.lookup key ≠ some none)
    (notGiven : ∀ text, conf.lookup listeningKey ≠ some (some text)) :
    SettingsRead (some conf) (configured conf) ↔
      (∀ setting ∈ numberSettings,
          ∀ text,
            conf.lookup setting.key = some (some text) →
            KeptNumber (textNumber text)) ∧
        ∀ text,
          conf.lookup stackKey = some (some text) →
          KeptKBytes (textNumber text) := by
  have holds
      {setting : NumberSetting}
      (member : setting ∈ numberSettings) :
      SettingHolds textNumber (conf.lookup setting.key) setting.default
          (setting.value (configured conf)) ↔
        ∀ text,
          conf.lookup setting.key = some (some text) →
          KeptNumber (textNumber text) := by
    obtain ⟨stored, value⟩ := numberSettings_configured conf setting member
    rw [value]
    refine number_holds_iff (readable _ ?_) stored
    exact List.mem_cons_of_mem _ (List.mem_map_of_mem member)
  have stackHolds :=
    stack_holds_iff (readable stackKey (List.mem_cons_self ..))
  constructor
  · intro settings
    exact
      ⟨fun setting member =>
          (holds member).mp (settings.numbers setting member),
        stackHolds.mp settings.stack⟩
  · rintro ⟨numbers, stack⟩
    refine
      ⟨fun setting member => (holds member).mpr (numbers setting member),
        stackHolds.mpr stack, ?_⟩
    show none = (conf.lookup listeningKey).join
    cases found : conf.lookup listeningKey with
    | none =>
        rfl
    | some val =>
        cases val with
        | none =>
            rfl
        | some text =>
            exact (notGiven text found).elim

/-- `lp_config_init` ends with every setting read. -/
def ReadsSettings (conf : Option Dictionary) : Prop :=
  ∃ configs, lpConfigInit conf = .ok configs ∧ SettingsRead conf configs

/-- With a dictionary, the settings are read exactly when it is suitable. -/
theorem readsSettings_iff {conf : Dictionary} :
    ReadsSettings (some conf) ↔ SuitableConfig (some conf) := by
  rw [suitable_iff]
  constructor
  · rintro ⟨configs, ended, settings⟩
    obtain ⟨readable, notGiven, rfl⟩ := lpConfigInit_ok_iff.mp ended
    exact
      ⟨readable, notGiven, (settingsRead_iff readable notGiven).mp settings⟩
  · rintro ⟨readable, notGiven, right⟩
    exact
      ⟨_, lpConfigInit_ok_iff.mpr ⟨readable, notGiven, rfl⟩,
        (settingsRead_iff readable notGiven).mpr right⟩

/-- Without a dictionary the settings are the defaults. -/
theorem readsSettings_none : ReadsSettings none := by
  refine ⟨_, rfl, ?_, .inl ⟨rfl, rfl⟩, rfl⟩
  simp only [numberSettings, List.forall_mem_cons]
  exact
    ⟨.inl ⟨rfl, rfl⟩, .inl ⟨rfl, rfl⟩, .inl ⟨rfl, rfl⟩, .inl ⟨rfl, rfl⟩,
      .inl ⟨rfl, rfl⟩, .inl ⟨rfl, rfl⟩, .inl ⟨rfl, rfl⟩, .inl ⟨rfl, rfl⟩,
      fun _ member => nomatch member⟩

/-- A number that is left is one of type `int`. -/
theorem number_bounds
    (conf : Dictionary)
    (key : List UInt8)
    {default : Int}
    (low : -2 ^ 31 ≤ default)
    (high : default < 2 ^ 31) :
    -2 ^ 31 ≤ conf.number key default ∧ conf.number key default < 2 ^ 31 := by
  cases found : conf.lookup key with
  | none =>
      rw [number_none found]
      exact ⟨low, high⟩
  | some val =>
      cases val with
      | none =>
          rw [Dictionary.number, found]
          exact ⟨low, high⟩
      | some text =>
          rw [number_text found]
          split
          · exact ⟨low, high⟩
          · exact toInt_bounds _

/--
For every dictionary of a configuration file, or none: `lp_config_init` ends
with every setting read, exactly when the dictionary is suitable.
-/
theorem config_init_reads_iff (conf : Option Dictionary) :
    ReadsSettings conf ↔ SuitableConfig conf := by
  cases conf with
  | none =>
      constructor
      · intro _
        exact ⟨nofun, nofun, nofun⟩
      · intro _
        exact readsSettings_none
  | some conf =>
      exact readsSettings_iff

/-- The dictionary of a file with these sections and values. -/
def dictionaryOf (lines : List (String × Option String)) : Dictionary :=
  lines.foldl
    (fun d line => dictionarySet d (ascii line.1) (line.2.map ascii))
    dictionaryNew

/-- An address to listen on. -/
def listeningFile : Dictionary :=
  dictionaryOf [("server", none), ("server:listening", some "0.0.0.0")]

/-- A timeout of -1. -/
def timeoutFile : Dictionary :=
  dictionaryOf [("server", none), ("server:timeout", some "-1")]

/-- A stack size of zero. -/
def stackFile : Dictionary :=
  dictionaryOf [("thread", none), ("thread:thread_stack_size", some "0")]

/-- A stack size below zero. -/
def negativeStackFile : Dictionary :=
  dictionaryOf [("thread", none), ("thread:thread_stack_size", some "-5")]

/-- A port that is no `int`. -/
def longPortFile : Dictionary :=
  dictionaryOf [("server", none), ("server:port", some "4294967297")]

/-- A section whose name is the key of a number. -/
def sectionFile : Dictionary :=
  dictionaryOf [("server:port", none)]

/--
A listening address is written through `NULL`, a number -1 and a stack size of
zero are taken for missing, a negative stack size and a port that is too large
are stored as other numbers, and the text behind the name of a section is
`NULL`.
-/
theorem config_init_misreads :
    (lpConfigInit (some listeningFile) = .error .writesNull ∧
        ¬ ReadsSettings (some listeningFile)) ∧
      ((lpConfigInit (some timeoutFile)).map LpConfig.timeout = .ok 30 ∧
        ¬ ReadsSettings (some timeoutFile)) ∧
      ((lpConfigInit (some stackFile)).map LpConfig.threadStackSize =
          .ok 2097152 ∧
        ¬ ReadsSettings (some stackFile)) ∧
      ((lpConfigInit (some negativeStackFile)).map
            LpConfig.threadStackSize = .ok 18446744073709546496 ∧
        ¬ ReadsSettings (some negativeStackFile)) ∧
      ((lpConfigInit (some longPortFile)).map LpConfig.listeningPort =
          .ok 1 ∧
        ¬ ReadsSettings (some longPortFile)) ∧
      lpConfigInit (some sectionFile) = .error .readsNull ∧
        ¬ ReadsSettings (some sectionFile) := by
  have stackNotStored
      {file : Dictionary}
      (text : List UInt8)
      (given : presentValue (some file) stackKey = some (some text))
      (notPositive : textNumber text ≤ 0) :
      ¬ SuitableConfig (some file) := by
    intro suitable
    obtain ⟨_, ⟨⟩, ⟨positive, -⟩ | ⟨low, -⟩⟩ := suitable.stack _ given
    · omega
    · omega
  simp only [readsSettings_iff]
  refine
    ⟨⟨by decide +kernel, ?_⟩, ⟨by decide +kernel, ?_⟩,
      ⟨by decide +kernel, ?_⟩, ⟨by decide +kernel, ?_⟩,
      ⟨by decide +kernel, ?_⟩, by decide +kernel, ?_⟩
  · intro suitable
    exact suitable.listening (ascii "0.0.0.0") (by decide +kernel)
  · intro suitable
    obtain ⟨text, isText, -, notInBand⟩ :=
      suitable.numbers
        ⟨ascii "server:timeout", 30, LpConfig.timeout⟩
        (by simp [numberSettings])
        (some (ascii "-1")) (by decide +kernel)
    cases isText
    exact notInBand (by decide)
  · exact stackNotStored (ascii "0") (by decide +kernel) (by decide)
  · exact stackNotStored (ascii "-5") (by decide +kernel) (by decide)
  · intro suitable
    obtain ⟨text, isText, ⟨-, high⟩, -⟩ :=
      suitable.numbers
        ⟨ascii "server:port", 389, LpConfig.listeningPort⟩
        (by simp [numberSettings])
        (some (ascii "4294967297")) (by decide +kernel)
    cases isText
    exact absurd high (by decide)
  · intro suitable
    obtain ⟨text, isText, -⟩ :=
      suitable.numbers
        ⟨ascii "server:port", 389, LpConfig.listeningPort⟩
        (by simp [numberSettings]) none
        (by decide +kernel)
    cases isText

end LdapProxy
