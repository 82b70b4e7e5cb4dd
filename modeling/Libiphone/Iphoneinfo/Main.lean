import Libiphone.Iphoneinfo

/-!
# The command line of iphoneinfo

`main` (`iphoneinfo.c`, lines 57-176) walks its arguments first (lines 71-120).  `-d` turns
debugging on, `-x` picks the XML format, and `-u`, `-q` and `-k` each take the next argument as
the UUID, the domain or the key, if it has the length the loop asks for: 40 bytes, at least 4,
at least 2.  Anything else, `-h` included, prints the usage and ends the program.  Only then does
`main` open the device and a lockdownd client, ask for the value, print it, and free the client
and the device.

An argument is the text of a C string: it holds no NUL, so `strlen` is the number of bytes of its
UTF-8 encoding and `strcmp` compares characters.  `is_domain_known` looks for a known domain in
the text with `strstr`; every known domain is ASCII, and an ASCII byte occurs in UTF-8 text only
as a character of its own, so looking for characters is looking for bytes.  libiphone and
lockdownd are not among the sources: `Lockdownd` is what `main` gets from them.

## What is proved here

* `parseArgs_valid`: from any arguments, the loop leaves settings that pass its checks;
* `parseArgs_append`: arguments the loop walks to their end parse as their parts in turn, so a
  later option overrides an earlier one;
* `parseArgs_toArgs`: every settings record that passes the checks is what the loop reads from
  its own spelling `Cmdline.toArgs`;
* `main_toArgs`: on a device that is found and takes a lockdownd client, `main` run with that
  spelling asks for exactly its domain and key, prints the answer in its format, and frees the
  client and then the device.
-/

namespace Libiphone.Iphoneinfo

/-! ## The arguments -/

/-- `domains` (lines 32-50), up to its terminating NULL. -/
def domains : List String :=
  ["com.apple.disk_usage", "com.apple.mobile.battery", "com.apple.xcode.developerdomain",
    "com.apple.international", "com.apple.mobile.mobile_application_usage",
    "com.apple.mobile.backup", "com.apple.mobile.user_preferences",
    "com.apple.mobile.sync_data_class", "com.apple.mobile.software_behavior",
    "com.apple.mobile.iTunes.SQLMusicLibraryPostProcessCommands", "com.apple.iTunes",
    "com.apple.mobile.iTunes.store", "com.apple.mobile.iTunes"]

/-- `is_domain_known(domain)` (lines 178-187): some known domain occurs in `domain`. -/
def isDomainKnown (domain : String) : Bool :=
  domains.any fun known => decide (List.IsInfix known.toList domain.toList)

/-- The warning of line 96, printed for a domain `is_domain_known` does not know. -/
def domainWarning (domain : String) : List String :=
  if isDomainKnown domain then []
  else ["WARNING: Sending query with unknown domain \"" ++ domain ++ "\".\n"]

/-- What the loop over the arguments sets: whether `-d` turned debugging on (with
`iphone_set_debug_mask(DBGMASK_ALL)` and `iphone_set_debug_level(1)`), the UUID copied into
`uuid` (none while `uuid[0]` is 0), `domain`, `key`, and `format`. -/
structure Cmdline where
  debug : Bool
  uuid : Option String
  domain : Option String
  key : Option String
  format : Nat
  deriving DecidableEq, Repr

/-- The settings before the first argument (lines 59-70). -/
def Cmdline.initial : Cmdline := ⟨false, none, none, none, formatKeyValue⟩

/-- Where the loop stops: the settings then, whether it printed the usage and returned 0, and the
warnings it printed on the way. -/
structure Parsed where
  settings : Cmdline
  usage : Bool
  warnings : List String
  deriving DecidableEq, Repr

/-- The loop over `argv[1]`, … (lines 71-120), from the settings `s`.  An option that takes a
value reads the next argument, which `argv[argc] = NULL` makes missing after the last. -/
def parseArgs (s : Cmdline) : List String → Parsed
  | [] => ⟨s, false, []⟩
  | arg :: args =>
    if arg = "-d" ∨ arg = "--debug" then parseArgs { s with debug := true } args
    else if arg = "-u" ∨ arg = "--uuid" then
      match args with
      | [] => ⟨s, true, []⟩
      | value :: args =>
        if value.utf8ByteSize ≠ 40 then ⟨s, true, []⟩
        else parseArgs { s with uuid := some value } args
    else if arg = "-q" ∨ arg = "--domain" then
      match args with
      | [] => ⟨s, true, []⟩
      | value :: args =>
        if value.utf8ByteSize < 4 then ⟨s, true, []⟩
        else
          { parseArgs { s with domain := some value } args with
            warnings := domainWarning value ++
              (parseArgs { s with domain := some value } args).warnings }
    else if arg = "-k" ∨ arg = "--key" then
      match args with
      | [] => ⟨s, true, []⟩
      | value :: args =>
        if value.utf8ByteSize ≤ 1 then ⟨s, true, []⟩
        else parseArgs { s with key := some value } args
    else if arg = "-x" ∨ arg = "--xml" then parseArgs { s with format := formatXml } args
    -- `-h`, `--help` and every other argument
    else ⟨s, true, []⟩

/-- The settings pass the checks of the loop: a UUID of 40 bytes, a domain of at least 4 and a key
of at least 2, and one of the two formats. -/
structure Cmdline.Valid (s : Cmdline) : Prop where
  uuid : ∀ u ∈ s.uuid, u.utf8ByteSize = 40
  domain : ∀ d ∈ s.domain, 4 ≤ d.utf8ByteSize
  key : ∀ k ∈ s.key, 2 ≤ k.utf8ByteSize
  format : s.format = formatKeyValue ∨ s.format = formatXml

/-- The arguments that spell `s`: an option for each setting it makes, in the order the usage
lists them. -/
def Cmdline.toArgs (s : Cmdline) : List String :=
  (if s.debug then ["-d"] else []) ++ (s.uuid.elim [] (fun u => ["-u", u]) ++
    (s.domain.elim [] (fun d => ["-q", d]) ++ (s.key.elim [] (fun k => ["-k", k]) ++
      (if s.format = formatXml then ["-x"] else []))))

/-! ## One step of the loop -/

section Steps

variable {s : Cmdline} {arg value : String}

theorem parseArgs_debug (harg : arg = "-d" ∨ arg = "--debug") (args : List String) :
    parseArgs s (arg :: args) = parseArgs { s with debug := true } args := by
  rw [parseArgs.eq_def]; exact if_pos harg

theorem parseArgs_uuid (hd : ¬ (arg = "-d" ∨ arg = "--debug")) (harg : arg = "-u" ∨ arg = "--uuid")
    (h : value.utf8ByteSize = 40) (args : List String) :
    parseArgs s (arg :: value :: args) = parseArgs { s with uuid := some value } args := by
  rw [parseArgs.eq_3, if_neg hd, if_pos harg, if_neg (not_not.mpr h)]

theorem parseArgs_domain (hd : ¬ (arg = "-d" ∨ arg = "--debug"))
    (hu : ¬ (arg = "-u" ∨ arg = "--uuid")) (harg : arg = "-q" ∨ arg = "--domain")
    (h : ¬ value.utf8ByteSize < 4) (args : List String) :
    parseArgs s (arg :: value :: args) =
      { parseArgs { s with domain := some value } args with
        warnings := domainWarning value ++
          (parseArgs { s with domain := some value } args).warnings } := by
  rw [parseArgs.eq_3, if_neg hd, if_neg hu, if_pos harg, if_neg h]

theorem parseArgs_key (hd : ¬ (arg = "-d" ∨ arg = "--debug"))
    (hu : ¬ (arg = "-u" ∨ arg = "--uuid")) (hq : ¬ (arg = "-q" ∨ arg = "--domain"))
    (harg : arg = "-k" ∨ arg = "--key") (h : ¬ value.utf8ByteSize ≤ 1) (args : List String) :
    parseArgs s (arg :: value :: args) = parseArgs { s with key := some value } args := by
  rw [parseArgs.eq_3, if_neg hd, if_neg hu, if_neg hq, if_pos harg, if_neg h]

theorem parseArgs_xml (hd : ¬ (arg = "-d" ∨ arg = "--debug"))
    (hu : ¬ (arg = "-u" ∨ arg = "--uuid")) (hq : ¬ (arg = "-q" ∨ arg = "--domain"))
    (hk : ¬ (arg = "-k" ∨ arg = "--key")) (harg : arg = "-x" ∨ arg = "--xml")
    (args : List String) :
    parseArgs s (arg :: args) = parseArgs { s with format := formatXml } args := by
  rw [parseArgs.eq_def]; exact (if_neg hd).trans ((if_neg hu).trans ((if_neg hq).trans
    ((if_neg hk).trans (if_pos harg))))

end Steps

/-! ## Every run of the loop -/

/-- Every step of the loop keeps the settings passing its checks, so the loop ends with settings
that pass them, whatever the arguments, on the way to the usage too. -/
theorem parseArgs_valid (s : Cmdline) (args : List String) (hs : s.Valid) :
    (parseArgs s args).settings.Valid := by
  induction s, args using parseArgs.induct with
  | case1 s => simpa [parseArgs] using hs
  | case2 s arg args harg ih =>
    rw [parseArgs_debug harg]
    exact ih ⟨hs.uuid, hs.domain, hs.key, hs.format⟩
  | case3 s arg hd harg => simpa [parseArgs, hd, harg] using hs
  | case4 s arg hd harg value args hlen => simpa [parseArgs, hd, harg, hlen] using hs
  | case5 s arg hd harg value args hlen ih =>
    rw [parseArgs_uuid hd harg (not_not.mp hlen)]
    exact ih ⟨by simpa using not_not.mp hlen, hs.domain, hs.key, hs.format⟩
  | case6 s arg hd hu harg => simpa [parseArgs, hd, hu, harg] using hs
  | case7 s arg hd hu harg value args hlen => simpa [parseArgs, hd, hu, harg, hlen] using hs
  | case8 s arg hd hu harg value args hlen ih =>
    rw [parseArgs_domain hd hu harg hlen]
    exact ih ⟨hs.uuid, by simpa using Nat.le_of_not_lt hlen, hs.key, hs.format⟩
  | case9 s arg hd hu hq harg => simpa [parseArgs, hd, hu, hq, harg] using hs
  | case10 s arg hd hu hq harg value args hlen => simpa [parseArgs, hd, hu, hq, harg, hlen] using hs
  | case11 s arg hd hu hq harg value args hlen ih =>
    rw [parseArgs_key hd hu hq harg hlen]
    exact ih ⟨hs.uuid, hs.domain, by simpa using Nat.lt_of_not_le hlen, hs.format⟩
  | case12 s arg args hd hu hq hk harg ih =>
    rw [parseArgs_xml hd hu hq hk harg]
    exact ih ⟨hs.uuid, hs.domain, hs.key, .inr rfl⟩
  | case13 s arg args hd hu hq hk hx =>
    rw [parseArgs.eq_def]
    simpa [hd, hu, hq, hk, hx] using hs

/-- `main` starts the loop from settings that pass the checks, so whatever its arguments, the
settings it goes on with pass them: a UUID of 40 bytes, a domain of at least 4, a key of at least
2, one of the two formats. -/
theorem parseArgs_initial_valid (args : List String) :
    (parseArgs Cmdline.initial args).settings.Valid :=
  parseArgs_valid _ args ⟨by simp [Cmdline.initial], by simp [Cmdline.initial],
    by simp [Cmdline.initial], .inl rfl⟩

/-- Arguments the loop walks to their end parse as their parts in turn: the second part starts
from the settings the first ends with, and its warnings follow the first part's. -/
theorem parseArgs_append (s : Cmdline) (args more : List String)
    (h : (parseArgs s args).usage = false) :
    parseArgs s (args ++ more) =
      { parseArgs (parseArgs s args).settings more with
        warnings := (parseArgs s args).warnings ++
          (parseArgs (parseArgs s args).settings more).warnings } := by
  induction s, args using parseArgs.induct with
  | case1 s => simp [parseArgs]
  | case2 s arg args harg ih =>
    rw [parseArgs_debug harg] at h ⊢
    rw [List.cons_append, parseArgs_debug harg]
    exact ih h
  | case3 s arg hd harg => simp [parseArgs, hd, harg] at h
  | case4 s arg hd harg value args hlen => simp [parseArgs, hd, harg, hlen] at h
  | case5 s arg hd harg value args hlen ih =>
    rw [parseArgs_uuid hd harg (not_not.mp hlen)] at h ⊢
    rw [List.cons_append, List.cons_append, parseArgs_uuid hd harg (not_not.mp hlen)]
    exact ih h
  | case6 s arg hd hu harg => simp [parseArgs, hd, hu, harg] at h
  | case7 s arg hd hu harg value args hlen => simp [parseArgs, hd, hu, harg, hlen] at h
  | case8 s arg hd hu harg value args hlen ih =>
    rw [parseArgs_domain hd hu harg hlen] at h ⊢
    rw [List.cons_append, List.cons_append, parseArgs_domain hd hu harg hlen, ih h]
    simp
  | case9 s arg hd hu hq harg => simp [parseArgs, hd, hu, hq, harg] at h
  | case10 s arg hd hu hq harg value args hlen => simp [parseArgs, hd, hu, hq, harg, hlen] at h
  | case11 s arg hd hu hq harg value args hlen ih =>
    rw [parseArgs_key hd hu hq harg hlen] at h ⊢
    rw [List.cons_append, List.cons_append, parseArgs_key hd hu hq harg hlen]
    exact ih h
  | case12 s arg args hd hu hq hk harg ih =>
    rw [parseArgs_xml hd hu hq hk harg] at h ⊢
    rw [List.cons_append, parseArgs_xml hd hu hq hk harg]
    exact ih h
  | case13 s arg args hd hu hq hk hx =>
    rw [parseArgs.eq_def] at h
    simp [hd, hu, hq, hk, hx] at h

/-- A second `-q` overrides the first. -/
theorem parseArgs_append_domains :
    (parseArgs Cmdline.initial ["-q", "com.apple.iTunes"]).usage = false ∧
      parseArgs Cmdline.initial (["-q", "com.apple.iTunes"] ++ ["-q", "com.apple.mobile.backup"]) =
        { parseArgs (parseArgs Cmdline.initial ["-q", "com.apple.iTunes"]).settings
            ["-q", "com.apple.mobile.backup"] with
          warnings := (parseArgs Cmdline.initial ["-q", "com.apple.iTunes"]).warnings ++
            (parseArgs (parseArgs Cmdline.initial ["-q", "com.apple.iTunes"]).settings
              ["-q", "com.apple.mobile.backup"]).warnings } :=
  ⟨by decide, parseArgs_append _ _ _ (by decide)⟩

/-! ## The spelling of a settings record -/

section Spelling

variable (t : Cmdline) (rest : List String)

theorem parseArgs_debugArgs (debug : Bool) :
    parseArgs t ((if debug then ["-d"] else []) ++ rest) =
      parseArgs { t with debug := debug || t.debug } rest := by
  cases debug
  · rfl
  · exact parseArgs_debug (.inl rfl) rest

theorem parseArgs_uuidArgs {uuid : Option String} (h : ∀ u ∈ uuid, u.utf8ByteSize = 40) :
    parseArgs t (uuid.elim [] (fun u => ["-u", u]) ++ rest) =
      parseArgs { t with uuid := uuid.or t.uuid } rest := by
  cases uuid with
  | none => rfl
  | some u => exact parseArgs_uuid (by decide) (.inl rfl) (h u rfl) rest

theorem parseArgs_domainArgs {domain : Option String} (h : ∀ d ∈ domain, 4 ≤ d.utf8ByteSize) :
    parseArgs t (domain.elim [] (fun d => ["-q", d]) ++ rest) =
      { parseArgs { t with domain := domain.or t.domain } rest with
        warnings := domain.elim [] domainWarning ++
          (parseArgs { t with domain := domain.or t.domain } rest).warnings } := by
  cases domain with
  | none => rfl
  | some d => exact parseArgs_domain (by decide) (by decide) (.inl rfl) (by simpa using h d rfl) rest

theorem parseArgs_keyArgs {key : Option String} (h : ∀ k ∈ key, 2 ≤ k.utf8ByteSize) :
    parseArgs t (key.elim [] (fun k => ["-k", k]) ++ rest) =
      parseArgs { t with key := key.or t.key } rest := by
  cases key with
  | none => rfl
  | some k => exact parseArgs_key (by decide) (by decide) (by decide) (.inl rfl) (by simpa using h k rfl) rest

theorem parseArgs_formatArgs (format : Nat) :
    parseArgs t ((if format = formatXml then ["-x"] else []) ++ rest) =
      parseArgs { t with format := if format = formatXml then formatXml else t.format } rest := by
  by_cases h : format = formatXml
  · simp only [if_pos h]
    exact parseArgs_xml (by decide) (by decide) (by decide) (by decide) (.inl rfl) rest
  · simp only [if_neg h]
    rfl

end Spelling

/-- The loop reads every settings record that passes its checks back from its spelling, with the
warning for its domain if it does not know it. -/
theorem parseArgs_toArgs {s : Cmdline} (hs : s.Valid) :
    parseArgs Cmdline.initial s.toArgs = ⟨s, false, s.domain.elim [] domainWarning⟩ := by
  rw [Cmdline.toArgs, parseArgs_debugArgs, parseArgs_uuidArgs _ _ hs.uuid,
    parseArgs_domainArgs _ _ hs.domain, parseArgs_keyArgs _ _ hs.key,
    ← List.append_nil (if s.format = formatXml then _ else _), parseArgs_formatArgs]
  have hformat : (if s.format = formatXml then formatXml else formatKeyValue) = s.format := by
    rcases hs.format with h | h <;> simp [h, formatXml, formatKeyValue]
  simp [parseArgs, Cmdline.initial, hformat]

/-! ## The program -/

/-- What `main` gets from libiphone and lockdownd: whether `iphone_device_new` finds a device for
a UUID, or for NULL the first one there is; whether `lockdownd_client_new` connects to it; and
the answer of `lockdownd_get_value` for a domain and a key, none when the call fails and else the
node it leaves, which may be NULL. -/
structure Lockdownd where
  deviceNew : Option String → Bool
  clientNew : Bool
  getValue : Option String → Option String → Option (Option Plist)

/-- A call of `main` into libiphone or lockdownd. -/
inductive Call
  | deviceNew (uuid : Option String)
  | lockdowndClientNew
  | lockdowndGetValue (domain key : Option String)
  | lockdowndClientFree
  | deviceFree
  deriving DecidableEq, Repr

/-- What a run of `main` does: its exit code, whether it turned debugging on, what it prints on
`stdout` and on `stderr`, and its calls into libiphone and lockdownd, in order. -/
structure Run where
  exitCode : Int
  debug : Bool
  stdout : String
  stderr : List String
  calls : List Call
  deriving DecidableEq

/-- `print_usage(argc, argv)` (lines 189-209), `argv0` being `argv[0]`: the program is named by
what follows the last `/` in it. -/
def printUsage (argv0 : String) : String :=
  "Usage: " ++ (argv0.splitOn "/").getLast?.getD argv0 ++ " [OPTIONS]\n" ++
    "Show information about the first connected iPhone/iPod Touch.\n\n" ++
    "  -d, --debug\t\tenable communication debugging\n" ++
    "  -u, --uuid UUID\ttarget specific device by its 40-digit device UUID\n" ++
    "  -q, --domain NAME\tset domain of query to NAME. Default: None\n" ++
    "  -k, --key NAME\tonly query key specified by NAME. Default: All keys.\n" ++
    "  -x, --xml\t\toutput information as xml plist instead of key/value pairs\n" ++
    "  -h, --help\t\tprints usage information\n" ++
    "\n" ++
    "  Known domains are:\n\n" ++
    String.join (domains.map fun domain => "  " ++ domain ++ "\n") ++
    "\n"

variable (L : PlistLib) (lib : Lockdownd)

/-- `main(argc, argv)` (lines 57-176), `args` being `argv[1]`, …: the loop over the arguments;
then the device, with the UUID if one was given; the lockdownd client; the query, whose answer is
printed as `queryOutput` says; and the clean-up, the client before the device. -/
def main (argv0 : String) (args : List String) : Run :=
  let p := parseArgs Cmdline.initial args
  if p.usage then ⟨0, p.settings.debug, printUsage argv0, p.warnings, []⟩
  else if lib.deviceNew p.settings.uuid then
    if lib.clientNew then
      ⟨0, p.settings.debug,
        queryOutput L p.settings.format p.settings.key
          (lib.getValue p.settings.domain p.settings.key),
        p.warnings,
        [.deviceNew p.settings.uuid, .lockdowndClientNew,
          .lockdowndGetValue p.settings.domain p.settings.key, .lockdowndClientFree, .deviceFree]⟩
    else
      ⟨-1, p.settings.debug, "", p.warnings,
        [.deviceNew p.settings.uuid, .lockdowndClientNew, .deviceFree]⟩
  else
    ⟨-1, p.settings.debug,
      p.settings.uuid.elim "No device found, is it plugged in?\n"
        (fun uuid => "No device found with uuid " ++ uuid ++ ", is it plugged in?\n"),
      p.warnings, [.deviceNew p.settings.uuid]⟩

/-- Run with the spelling of settings that pass the checks, on a device that is found and takes
a lockdownd client, `main` turns debugging on as asked, asks lockdownd for exactly the domain and
the key of the settings, prints the answer in their format, and frees the client and then the
device. -/
theorem main_toArgs (argv0 : String) {s : Cmdline} (hs : s.Valid)
    (hdevice : lib.deviceNew s.uuid = true) (hclient : lib.clientNew = true) :
    main L lib argv0 s.toArgs =
      ⟨0, s.debug, queryOutput L s.format s.key (lib.getValue s.domain s.key),
        s.domain.elim [] domainWarning,
        [.deviceNew s.uuid, .lockdowndClientNew, .lockdowndGetValue s.domain s.key,
          .lockdowndClientFree, .deviceFree]⟩ := by
  simp only [main, parseArgs_toArgs hs, hdevice, hclient, if_true, Bool.false_eq_true, if_false]

/-- A libplist whose dict iterator hands out a dict's entries and nothing for other nodes, and
which writes no XML. -/
def samplePlistLib : PlistLib := ⟨fun | .dict entries => entries | _ => [], fun _ => rfl, fun _ => ""⟩

/-- A device that is found, takes a client, and answers every query with the dict
`{BatteryCurrentCapacity = 100}`. -/
def batteryLockdownd : Lockdownd :=
  ⟨fun _ => true, true, fun _ _ => some (some (.dict [("BatteryCurrentCapacity", .uint 100)]))⟩

/-- The settings `-d -q com.apple.mobile.battery -k BatteryCurrentCapacity`. -/
def batteryQuery : Cmdline :=
  ⟨true, none, some "com.apple.mobile.battery", some "BatteryCurrentCapacity", formatKeyValue⟩

theorem main_toArgs_battery :
    batteryQuery.Valid ∧ batteryLockdownd.deviceNew batteryQuery.uuid = true ∧
      batteryLockdownd.clientNew = true ∧
      main samplePlistLib batteryLockdownd "/usr/bin/iphoneinfo" batteryQuery.toArgs =
        ⟨0, true, "BatteryCurrentCapacity: ", [],
          [.deviceNew none, .lockdowndClientNew,
            .lockdowndGetValue (some "com.apple.mobile.battery") (some "BatteryCurrentCapacity"),
            .lockdowndClientFree, .deviceFree]⟩ := by
  have hs : batteryQuery.Valid := ⟨by simp [batteryQuery], by simp [batteryQuery]; decide,
    by simp [batteryQuery]; decide, .inl rfl⟩
  refine ⟨hs, rfl, rfl, (main_toArgs samplePlistLib batteryLockdownd _ hs rfl rfl).trans ?_⟩
  rw [show batteryLockdownd.getValue batteryQuery.domain batteryQuery.key =
      some (some (.dict [("BatteryCurrentCapacity", .uint 100)])) from rfl,
    queryOutput_dict _ _ (List.cons_ne_nil _ _) (by decide)]
  decide

end Libiphone.Iphoneinfo
