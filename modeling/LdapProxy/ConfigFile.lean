import LdapProxy.IniLoad

namespace LdapProxy

open LdapProxy.NumberText

/-!
# From a configuration file to the settings

`lp_config_init` opens the file, loads it into a dictionary and reads the
settings out of the dictionary.  `configInitFile_iff` says what the settings
are for the text of every file, without a dictionary.
-/

/-- What `lp_config_init` cannot survive, from the file on. -/
inductive StartFault where
  /-- `iniparser_load` writes outside of its buffers. -/
  | writesOutside
  | config (fault : ConfigFault)
  deriving DecidableEq

/-- `lp_config_init` after `open_conf_file`. -/
def lpConfigInitLoaded : LoadResult → Except StartFault LpConfig
  | .undefined =>
      .error .writesOutside
  | .null =>
      (lpConfigInit none).mapError .config
  | .loaded dict =>
      (lpConfigInit (some dict)).mapError .config

/-- `lp_config_init`, for the contents of the file if it can be opened. -/
def lpConfigInitFile (before : UInt8) (file : Option (List UInt8)) :
    Except StartFault LpConfig :=
  lpConfigInitLoaded (file.elim .null (iniparserLoad before))

/-- What a file enters into the dictionary, in order. -/
def fileEntries (file : List UInt8) :
    List (List UInt8 × Option (List UInt8)) :=
  entriesOf [] (readFile file).1

/-- The value that is entered last for a key. -/
def lastValue (file key : List UInt8) : Option (Option (List UInt8)) :=
  (fileEntries file).reverse.lookup key

/-- Every line can be read, and the last one that says something does so. -/
def WellFormedFile (file : List UInt8) : Prop :=
  (readFile file).2 = true ∧
    lastSaid .nothing (readFile file).1 ≠ .malformed

/-- A number of a file, or its default. -/
def fileNumber (file key : List UInt8) (default : Int) : Int :=
  (storedNumber (lastValue file key)).getD default

/-- The settings of a file. -/
def fileSettings (file : List UInt8) : LpConfig where
  logLevel := fileNumber file (ascii "log:log_level") 3
  maxThreads := fileNumber file (ascii "thread:max_threads") 128
  taskManagerNum := fileNumber file (ascii "thread:task_manager_num") 1
  ldapNum := fileNumber file (ascii "thread:ldap_num") 4
  mysqlNum := fileNumber file (ascii "thread:mysql_num") 8
  threadStackSize := stackSize (fileNumber file stackKey 0)
  maxConnections := fileNumber file (ascii "server:max_connections") 2048
  listeningIp := none
  listeningPort := fileNumber file (ascii "server:port") 389
  timeout := fileNumber file (ascii "server:timeout") 30

/-- The settings without a configuration file. -/
def defaultSettings : LpConfig :=
  { LpConfig.default with threadStackSize := 2048 * 1024 }

/-- The numbers have texts, and no listening address is given. -/
structure SettingsAccepted (file : List UInt8) : Prop where
  numbers : ∀ key ∈ numberKeys, lastValue file key ≠ some none
  listening : ∀ text, lastValue file listeningKey ≠ some (some text)

/-- The settings of a file are those of any dictionary with its values. -/
theorem configured_eq
    {file : List UInt8}
    {dict : Dictionary}
    (lookups : ∀ key, dict.lookup key = lastValue file key) :
    configured dict = fileSettings file := by
  have number (key : List UInt8) (default : Int) :
      dict.number key default = fileNumber file key default := by
    rw [Dictionary.number, fileNumber, lookups]
  simp only [configured, fileSettings, number]

/-- A result without a fault. -/
theorem mapError_ok_iff
    {First Second Value : Type}
    {wrap : First → Second}
    {result : Except First Value}
    {value : Value} :
    result.mapError wrap = .ok value ↔ result = .ok value := by
  cases result with
  | error fault =>
      exact ⟨nofun, nofun⟩
  | ok other =>
      simp [Except.mapError]

/--
For every file: `lp_config_init` ends exactly when all keys fit and either the
file is refused, so that the settings are the defaults, or they are accepted,
and then they are those that the file gives last.
-/
theorem configInitFile_iff
    {before : UInt8}
    (quiet : QuietBefore before)
    (file : List UInt8)
    (configs : LpConfig) :
    lpConfigInitFile before (some file) = .ok configs ↔
      KeysFit (fileEntries file) ∧
        ((¬ WellFormedFile file ∧ configs = defaultSettings) ∨
          (WellFormedFile file ∧ SettingsAccepted file ∧
            configs = fileSettings file)) := by
  have meaning := enterStatements_readFile file
  rw [← iniparserLoad_eq quiet] at meaning
  rw [lpConfigInitFile, Option.elim_some]
  generalize iniparserLoad before file = result at meaning ⊢
  cases result with
  | undefined =>
      constructor
      · intro ended
        cases ended
      · rintro ⟨fit, -⟩
        exact (meaning fit).elim
  | null =>
      obtain ⟨fit, refused⟩ := meaning
      have notWell : ¬ WellFormedFile file := by
        rintro ⟨readable, last⟩
        rcases refused with unreadable | malformed
        · rw [unreadable] at readable
          cases readable
        · exact last malformed
      rw [lpConfigInitLoaded, mapError_ok_iff]
      constructor
      · intro ended
        cases ended
        exact ⟨fit, .inl ⟨notWell, rfl⟩⟩
      · rintro ⟨-, ⟨-, rfl⟩ | ⟨well, -⟩⟩
        · rfl
        · exact (notWell well).elim
  | loaded dict =>
      obtain ⟨fit, readable, last, lookups⟩ := meaning
      have well : WellFormedFile file := ⟨readable, last⟩
      have values : ∀ key, dict.lookup key = lastValue file key := lookups
      rw [lpConfigInitLoaded, mapError_ok_iff, lpConfigInit_ok_iff,
        configured_eq values]
      simp only [values]
      constructor
      · rintro ⟨numbers, listening, same⟩
        exact ⟨fit, .inr ⟨well, ⟨numbers, listening⟩, same⟩⟩
      · rintro ⟨-, ⟨notWell, -⟩ | ⟨-, accepted, same⟩⟩
        · exact (notWell well).elim
        · exact ⟨accepted.numbers, accepted.listening, same⟩

/-- A file whose port is given twice, in other letters the second time. -/
def portFile : List UInt8 :=
  ascii "[server]\nport = 1389\n[log]\nlog_level=0x2\n" ++
    ascii "[Server]\nPORT = 636 # ldaps\n"

theorem configInitFile_iff_port :
    lpConfigInitFile 0 (some portFile) = .ok (fileSettings portFile) ∧
      (fileSettings portFile).listeningPort = 636 ∧
      (fileSettings portFile).logLevel = 2 := by
  have fit : KeysFit (fileEntries portFile) := by
    unfold KeysFit
    decide +kernel
  have well : WellFormedFile portFile := by
    unfold WellFormedFile
    decide +kernel
  have numbers : ∀ key ∈ numberKeys, lastValue portFile key ≠ some none := by
    decide +kernel
  have listening : lastValue portFile listeningKey = none := by
    decide +kernel
  have accepted : SettingsAccepted portFile :=
    ⟨numbers, fun text given => by rw [listening] at given; cases given⟩
  refine ⟨?_, by decide +kernel, by decide +kernel⟩
  exact (configInitFile_iff ⟨by decide, by decide⟩ portFile
    (fileSettings portFile)).mpr ⟨fit, .inr ⟨well, accepted, rfl⟩⟩

end LdapProxy
