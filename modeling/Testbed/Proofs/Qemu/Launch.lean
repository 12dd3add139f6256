import Mathlib.Data.List.TakeWhile
import Testbed.Proofs.Text.Utf8
import Testbed.Qemu.Launch

/-!
# Machines as the emulator reads them

This file supplies what the emulator reads out of the command line that it is started with, and
when that is the machine that was asked for.  The value of an option is a list of settings with
commas between them, where two commas in a row stand for one that belongs to a setting.

The settings are joined without doubling the commas that they have of their own.  So they are read
back exactly if they have none, which comes down to the path of the image and the names of the
adapters, for all else is made of digits and fixed words.
-/

namespace Testbed.Qemu

/-! ## Items -/

/-- The first item of a text and the others.  A comma stands between items, and two commas are one
that belongs to an item. -/
def cut : List Char → List Char × List (List Char)
  | [] => ([], [])
  | ',' :: ',' :: rest => (',' :: (cut rest).1, (cut rest).2)
  | ',' :: rest => ([], (cut rest).1 :: (cut rest).2)
  | char :: rest => (char :: (cut rest).1, (cut rest).2)

/-- The items of a text. -/
def items (text : List Char) : List (List Char) :=
  (cut text).1 :: (cut text).2

/-- An item ends where the text does, and at a comma that stands alone. -/
inductive EndsItem : List Char → Prop
  | done : EndsItem []
  | comma {char : Char} {rest : List Char} (alone : char ≠ ',') : EndsItem (',' :: char :: rest)

theorem cut_cons_of_ne {char : Char} (other : char ≠ ',') (rest : List Char) :
    cut (char :: rest) = (char :: (cut rest).1, (cut rest).2) := by
  rw [cut]
  · rintro _ rfl
    exact absurd rfl other
  · exact other

theorem cut_alone {char : Char} (other : char ≠ ',') (rest : List Char) :
    cut (',' :: char :: rest) = ([], items (char :: rest)) := by
  rw [cut, items]
  rintro _ ⟨⟩
  exact absurd rfl other

theorem cut_append_of_not_mem {item : List Char} (plain : ',' ∉ item) (rest : List Char) :
    cut (item ++ rest) = (item ++ (cut rest).1, (cut rest).2) := by
  induction item with
  | nil => rfl
  | cons char item ih =>
      rw [List.mem_cons, not_or] at plain
      rw [List.cons_append, cut_cons_of_ne (Ne.symm plain.1), ih plain.2, List.cons_append]

theorem EndsItem.cut_fst {rest : List Char} (ends : EndsItem rest) : (cut rest).1 = [] := by
  cases ends with
  | done => rfl
  | comma alone => rw [cut_alone alone]

/-- An item that is read as it was written, perhaps with commas in front, has no commas: of two in
a row one is lost, and one that stands alone ends the item. -/
theorem not_mem_of_cut_append {rest : List Char} (ends : EndsItem rest) :
    ∀ (count : Nat) (item : List Char),
      (cut (item ++ rest)).1 = List.replicate count ',' ++ item → count = 0 ∧ ',' ∉ item
  | count, [], same => by
      rw [List.nil_append, ends.cut_fst, List.append_nil] at same
      simpa using same.symm
  | count, char :: item, same => by
      by_cases comma : char = ','
      · subst comma
        match item with
        | [] =>
            rw [← List.replicate_succ'] at same
            cases ends with
            | done => cases same
            | @comma next _ alone =>
                -- The comma and the one behind the item are taken for one, and the item goes on.
                have read : next ∈ List.replicate (count + 1) ',' := by
                  rw [← same, List.singleton_append, cut, cut_cons_of_ne alone]
                  simp
                exact absurd (List.eq_of_mem_replicate read) alone
        | next :: item =>
            by_cases again : next = ','
            · subst again
              have moved : List.replicate count ',' ++ ',' :: ',' :: item =
                  ',' :: (List.replicate (count + 1) ',' ++ item) := by
                rw [List.append_cons, ← List.replicate_succ', List.append_cons,
                  ← List.replicate_succ', List.replicate_succ, List.cons_append]
              rw [moved] at same
              have fewer := not_mem_of_cut_append ends (count + 1) item (List.cons.inj same).2
              exact absurd fewer.1 (Nat.succ_ne_zero count)
            · rw [List.cons_append, List.cons_append, cut_alone again] at same
              simp at same
      · rw [List.cons_append, cut_cons_of_ne comma] at same
        cases count with
        | zero =>
            have later := not_mem_of_cut_append ends 0 item (List.cons.inj same).2
            exact ⟨rfl, List.not_mem_cons_of_ne_of_not_mem (Ne.symm comma) later.2⟩
        | succ count =>
            rw [List.replicate_succ, List.cons_append] at same
            exact absurd (List.cons.inj same).1 comma

theorem items_append_eq_iff {item rest : List Char} {more : List (List Char)}
    (ends : EndsItem rest) :
    items (item ++ rest) = item :: more ↔ ',' ∉ item ∧ (cut rest).2 = more := by
  constructor
  · intro read
    rw [items, List.cons.injEq] at read
    have plain := (not_mem_of_cut_append ends 0 item read.1).2
    rw [cut_append_of_not_mem plain] at read
    exact ⟨plain, read.2⟩
  · rintro ⟨plain, rfl⟩
    rw [items, cut_append_of_not_mem plain, ends.cut_fst, List.append_nil]

/-- Items that begin with something else than a comma are read back from the text that joins them
exactly if none of them has a comma. -/
theorem items_intercalate_eq_iff {parts : List (List Char)} (some_part : parts ≠ [])
    (begun : ∀ part ∈ parts, ∃ char rest, part = char :: rest ∧ char ≠ ',') :
    items ([','].intercalate parts) = parts ↔ ∀ part ∈ parts, ',' ∉ part := by
  induction parts with
  | nil => contradiction
  | cons part parts ih =>
      rw [List.forall_mem_cons] at begun ⊢
      cases parts with
      | nil =>
          have alone : items (part ++ []) = [part] ↔ ',' ∉ part ∧ (cut []).2 = [] :=
            items_append_eq_iff .done
          rw [List.append_nil] at alone
          rw [List.intercalate_singleton, alone]
          simp [cut]
      | cons next parts =>
          have later := ih (by simp) begun.2
          obtain ⟨char, front, rfl, alone⟩ := begun.2 next (by simp)
          have text : ∃ rest, [','].intercalate ((char :: front) :: parts) = char :: rest := by
            cases parts with
            | nil => exact ⟨front, List.intercalate_singleton ..⟩
            | cons => exact ⟨_, List.intercalate_cons_cons ..⟩
          obtain ⟨rest, text⟩ := text
          rw [text] at later
          rw [List.intercalate_cons_cons, text, List.append_assoc, List.singleton_append,
            items_append_eq_iff (.comma alone), cut_alone alone, later]

/-! ## Settings -/

/-- A setting of an option: a key, and its value behind an equals sign, if there is one. -/
structure Setting where
  key : String
  value : Option String
  deriving DecidableEq, Repr

namespace Setting

/-- A setting in its text form. -/
def text (setting : Setting) : String :=
  match setting.value with
  | some value => setting.key ++ "=" ++ value
  | none => setting.key

/-- The setting that an item is: what comes before its first equals sign, and what behind. -/
def ofItem (item : List Char) : Setting where
  key := String.ofList (item.takeWhile (· ≠ '='))
  value := match item.dropWhile (· ≠ '=') with
    | _ :: value => some (String.ofList value)
    | [] => none

/-- The key of a setting is a key for the emulator. -/
def IsNamed (setting : Setting) : Prop :=
  setting.key ≠ "" ∧ ',' ∉ setting.key.toList ∧ '=' ∉ setting.key.toList

instance (setting : Setting) : Decidable setting.IsNamed :=
  inferInstanceAs (Decidable (_ ∧ _ ∧ _))

theorem ofItem_text {setting : Setting} (named : setting.IsNamed) :
    ofItem setting.text.toList = setting := by
  obtain ⟨key, value⟩ := setting
  have inKey : ∀ char ∈ key.toList, decide (char ≠ '=') = true := by
    intro char inside
    apply decide_eq_true
    rintro rfl
    exact named.2.2 inside
  cases value with
  | none =>
      have all : key.toList.takeWhile (· ≠ '=') = key.toList :=
        List.takeWhile_eq_self_iff.mpr inKey
      have no_more : key.toList.dropWhile (· ≠ '=') = [] :=
        List.dropWhile_eq_nil_iff.mpr inKey
      simp only [ofItem, text]
      rw [all, no_more]
      simp
  | some value =>
      have text : (key ++ "=" ++ value).toList = key.toList ++ '=' :: value.toList := by
        simp
      simp only [ofItem, Setting.text]
      rw [text, List.takeWhile_append_of_pos inKey, List.dropWhile_append_of_pos inKey]
      simp

theorem text_ofItem (item : List Char) : (ofItem item).text.toList = item := by
  have whole := List.takeWhile_append_dropWhile (p := fun char => decide (char ≠ '=')) (l := item)
  have behind := List.head?_dropWhile_not (fun char => decide (char ≠ '=')) item
  simp only [ofItem, text]
  generalize List.dropWhile (fun char => decide (char ≠ '=')) item = rest at whole behind ⊢
  cases rest with
  | nil => simpa using whole
  | cons sign value =>
      have equals : sign = '=' := by simpa using behind
      subst equals
      simpa using whole

theorem exists_text_eq_cons {setting : Setting} (named : setting.IsNamed) :
    ∃ char rest, setting.text.toList = char :: rest ∧ char ≠ ',' := by
  obtain ⟨key, value⟩ := setting
  obtain ⟨some_key, noComma, -⟩ := named
  cases chars : key.toList with
  | nil => exact absurd (String.toList_eq_nil_iff.mp chars) some_key
  | cons char rest =>
      rw [chars, List.mem_cons, not_or] at noComma
      cases value with
      | none => exact ⟨char, rest, chars, Ne.symm noComma.1⟩
      | some value =>
          refine ⟨char, rest ++ ('=' :: value.toList), ?_, Ne.symm noComma.1⟩
          simp [text, chars]

/-- The value of a setting, if it has one, has no comma. -/
def IsPlain (setting : Setting) : Prop :=
  ∀ value ∈ setting.value, ',' ∉ value.toList

theorem not_mem_text_iff {setting : Setting} (named : setting.IsNamed) :
    ',' ∉ setting.text.toList ↔ setting.IsPlain := by
  obtain ⟨key, value⟩ := setting
  cases value with
  | none => simpa [text, IsPlain] using named.2.1
  | some value => simpa [text, IsPlain] using fun _ => named.2.1

end Setting

/-- The settings that an option is given. -/
def settings (option : String) : List Setting :=
  (items option.toList).map Setting.ofItem

/-- Settings with commas between them. -/
def joined (list : List Setting) : String :=
  ",".intercalate (list.map Setting.text)

/-- Settings are read back from the text that joins them exactly if no value has a comma. -/
theorem settings_joined_eq_iff {list : List Setting} (some_setting : list ≠ [])
    (named : ∀ setting ∈ list, setting.IsNamed) :
    settings (joined list) = list ↔ ∀ setting ∈ list, setting.IsPlain := by
  have texts : (joined list).toList =
      [','].intercalate (list.map fun setting => setting.text.toList) := by
    rw [joined, String.toList_intercalate, List.map_map]
    rfl
  have read_iff (parts : List (List Char)) :
      parts.map Setting.ofItem = list ↔ parts = list.map fun setting => setting.text.toList := by
    constructor
    · rintro rfl
      simp [Function.comp_def, Setting.text_ofItem]
    · rintro rfl
      rw [List.map_map]
      calc
        list.map (Setting.ofItem ∘ fun setting => setting.text.toList) = list.map id :=
          List.map_congr_left fun setting member => Setting.ofItem_text (named setting member)
        _ = list := List.map_id list
  have begun : ∀ part ∈ list.map fun setting => setting.text.toList,
      ∃ char rest, part = char :: rest ∧ char ≠ ',' := by
    rw [List.forall_mem_map]
    exact fun setting member => Setting.exists_text_eq_cons (named setting member)
  rw [settings, texts, read_iff, items_intercalate_eq_iff (by simpa using some_setting) begun,
    List.forall_mem_map]
  exact forall₂_congr fun setting member => Setting.not_mem_text_iff (named setting member)

/-! ## What is asked for -/

/-- The settings of a disk with an image. -/
def driveSettings (image : String) (snapshot : Bool) : List Setting :=
  [⟨"file", some image⟩, ⟨"format", some (imageFormat image)⟩, ⟨"if", some "virtio"⟩]
    ++ if snapshot then [⟨"snapshot", some "on"⟩] else []

/-- The settings of a network by its number: its kind, which has no value, and its name for the
emulator come first. -/
def networkSettings (forwards : List PortForward) (number : Nat) (network : Network) :
    List Setting :=
  if network.name = loopbackAdapter then
    [⟨"user", none⟩, ⟨"id", some ("net" ++ toString number)⟩]
      ++ forwards.map fun forward =>
        ⟨"hostfwd", some ("tcp::" ++ toString forward.hostPort.toNat ++ "-:"
          ++ toString forward.guestPort.toNat)⟩
  else
    [⟨"tap", none⟩, ⟨"id", some ("net" ++ toString number)⟩, ⟨"ifname", some network.name⟩,
     ⟨"script", some "no"⟩, ⟨"downscript", some "no"⟩]

/-- The settings of the device for a network. -/
def deviceSettings (number : Nat) : List Setting :=
  [⟨"virtio-net-pci", none⟩, ⟨"netdev", some ("net" ++ toString number)⟩]

/-- The options for a network by its number, with their settings. -/
def networkOptions (forwards : List PortForward) (number : Nat) (network : Network) :
    List (String × List Setting) :=
  [("-netdev", networkSettings forwards number network), ("-device", deviceSettings number)]

/-- The options for a machine, with their settings: its disk, and its networks in their order. -/
def machineOptions (image : String) (snapshot : Bool) (config : Config) :
    List (String × List Setting) :=
  ("-drive", driveSettings image snapshot) ::
    config.networks.zipIdx.flatMap fun (network, number) =>
      networkOptions config.portForwarding number network

/-! ## What is written -/

theorem intercalate_cons (separator first : String) (others : List String) :
    separator.intercalate (first :: others) =
      first ++ String.join (others.map (separator ++ ·)) := by
  induction others generalizing first with
  | nil => simp
  | cons next others ih =>
      rw [String.intercalate_cons_cons, ih, List.map_cons, String.join_cons]
      simp only [String.append_assoc]

theorem driveOption_eq (launch : Launch) :
    driveOption launch = joined (driveSettings launch.image launch.snapshot) := by
  apply String.toList_inj.mp
  cases snapshot : launch.snapshot <;>
    simp [driveOption, driveSettings, joined, Setting.text, snapshot]

theorem networkOption_eq (forwards : List PortForward) (number : Nat) (network : Network) :
    networkOption forwards number network = joined (networkSettings forwards number network) := by
  rw [networkOption, networkSettings]
  split
  · have each (forward : PortForward) :
        ",hostfwd=tcp::" ++ toString forward.hostPort.toNat ++ "-:"
            ++ toString forward.guestPort.toNat =
          "," ++ Setting.text ⟨"hostfwd", some ("tcp::" ++ toString forward.hostPort.toNat ++ "-:"
            ++ toString forward.guestPort.toNat)⟩ := by
      apply String.toList_inj.mp
      simp [Setting.text]
    simp only [each]
    rw [joined, List.map_append, List.map_cons, List.map_singleton, List.cons_append,
      intercalate_cons, List.map_append, List.map_map, List.map_map, String.join_append]
    apply String.toList_inj.mp
    simp [Setting.text, Function.comp_def]
  · apply String.toList_inj.mp
    simp [joined, Setting.text]

theorem joined_deviceSettings (number : Nat) :
    joined (deviceSettings number) = "virtio-net-pci,netdev=net" ++ toString number := by
  apply String.toList_inj.mp
  simp [deviceSettings, joined, Setting.text]

/-! ## What is read -/

theorem not_mem_toDigits (number : Nat) : ',' ∉ Nat.toDigits 10 number := by
  intro inside
  have digit := Nat.isDigit_of_mem_toDigits (by decide) (by decide) inside
  exact absurd digit (by decide)

theorem imageFormat_plain (image : String) : ',' ∉ (imageFormat image).toList := by
  rw [imageFormat]
  split <;> decide

/-- The settings of a disk are read as they are meant exactly if the path of its image has no
comma. -/
theorem settings_driveOption_iff (launch : Launch) :
    settings (driveOption launch) = driveSettings launch.image launch.snapshot ↔
      ',' ∉ launch.image.toList := by
  rw [driveOption_eq, settings_joined_eq_iff]
  · have format := imageFormat_plain launch.image
    cases launch.snapshot <;> simp [driveSettings, Setting.IsPlain, format]
  · simp [driveSettings]
  · cases launch.snapshot <;> simp [driveSettings, Setting.IsNamed]

/-- The settings of a network are read as they are meant exactly if the name of its adapter has no
comma, or stands for no adapter. -/
theorem settings_networkOption_iff (forwards : List PortForward) (number : Nat)
    (network : Network) :
    settings (networkOption forwards number network) = networkSettings forwards number network ↔
      (network.name ≠ loopbackAdapter → ',' ∉ network.name.toList) := by
  rw [networkOption_eq, settings_joined_eq_iff]
  · rw [networkSettings]
    split <;> simp_all [Setting.IsPlain, not_mem_toDigits]
  · rw [networkSettings]
    split <;> simp
  · rw [networkSettings]
    split <;> simp [Setting.IsNamed]

theorem settings_device (number : Nat) :
    settings ("virtio-net-pci,netdev=net" ++ toString number) = deviceSettings number := by
  rw [← joined_deviceSettings, settings_joined_eq_iff]
  · simp [deviceSettings, Setting.IsPlain, not_mem_toDigits]
  · simp [deviceSettings]
  · simp [deviceSettings, Setting.IsNamed]

/-! ## Command lines -/

/-- The options for disks, networks and devices on a command line with their settings.  Those for
memory and processors have a value, too, which is no option. -/
def options : List String → List (String × List Setting)
  | option :: value :: rest =>
      if option ∈ ["-drive", "-netdev", "-device"] then (option, settings value) :: options rest
      else if option ∈ ["-m", "-smp"] then options rest
      else options (value :: rest)
  | _ => []

theorem options_networkArguments_iff (forwards : List PortForward) (number : Nat)
    (networks : List Network) (rest : List String) :
    options (networkArguments forwards number networks ++ rest) =
        ((networks.zipIdx number).flatMap fun (network, number) =>
          networkOptions forwards number network) ++ options rest ↔
      ∀ network ∈ networks, network.name ≠ loopbackAdapter → ',' ∉ network.name.toList := by
  induction networks generalizing number with
  | nil => simp [networkArguments]
  | cons network networks ih =>
      have first : options (networkArguments forwards number (network :: networks) ++ rest) =
          ("-netdev", settings (networkOption forwards number network)) ::
            ("-device", deviceSettings number) ::
              options (networkArguments forwards (number + 1) networks ++ rest) := by
        rw [← settings_device]
        rfl
      rw [first, List.zipIdx_cons, List.flatMap_cons, List.forall_mem_cons, ← ih (number + 1),
        ← settings_networkOption_iff forwards number]
      simp [networkOptions]

theorem options_arguments (launch : Launch) (config : Config) :
    options (arguments launch config) =
      ("-drive", settings (driveOption launch)) ::
        options (networkArguments config.portForwarding 0 config.networks
          ++ launch.extraArguments) := by
  rw [arguments, List.append_assoc]
  rfl

/-- A launch with the image at a path, which need not be text: a command line shows it decoded. -/
def Launch.withImageAt (launch : Launch) (path : Octets) : Launch :=
  { launch with image := Text.Utf8.decode path }

/-- The emulator reads the disk and the networks of a machine, and then what the further arguments
add to them, exactly if the path of the image is a text without commas and no name of an adapter
has a comma. -/
theorem machine_conveyed_iff (launch : Launch) (path : Octets) (config : Config) :
    (∃ image, Text.Utf8.encode image = path ∧
      options (arguments (launch.withImageAt path) config) =
        machineOptions image launch.snapshot config ++ options launch.extraArguments) ↔
      (∃ image, Text.Utf8.encode image = path ∧ ',' ∉ image.toList) ∧
        ∀ network ∈ config.networks,
          network.name ≠ loopbackAdapter → ',' ∉ network.name.toList := by
  have read (image : String) :
      options (arguments (launch.withImageAt (Text.Utf8.encode image)) config) =
          machineOptions image launch.snapshot config ++ options launch.extraArguments ↔
        ',' ∉ image.toList ∧ ∀ network ∈ config.networks,
          network.name ≠ loopbackAdapter → ',' ∉ network.name.toList := by
    rw [Launch.withImageAt, Text.Utf8.decode_encode, options_arguments, machineOptions,
      List.cons_append, List.cons.injEq, Prod.mk.injEq, settings_driveOption_iff,
      options_networkArguments_iff]
    simp
  constructor
  · rintro ⟨image, rfl, conveyed⟩
    obtain ⟨plain, names⟩ := (read image).mp conveyed
    exact ⟨⟨image, rfl, plain⟩, names⟩
  · rintro ⟨⟨image, rfl, plain⟩, names⟩
    exact ⟨image, rfl, (read image).mpr ⟨plain, names⟩⟩

/-- A machine with a network in user mode and one with an adapter is started as it was meant. -/
theorem machine_conveyed_loopbackAndTap :
    let launch : Launch := { image := "disk.qcow2" }
    let config : Config :=
      { networks :=
          [⟨"lo", ⟨127, 0, 0, 1⟩, ⟨127, 0, 0, 1⟩⟩, ⟨"tap0", ⟨10, 0, 0, 2⟩, ⟨10, 0, 0, 1⟩⟩]
        sshPort := 22, cores := 1, ramSize := "512M", portForwarding := [⟨2222, 22⟩] }
    config.validate = .ok () ∧
      options (arguments (launch.withImageAt (Text.Utf8.encode launch.image)) config) =
        [("-drive",
          [⟨"file", some "disk.qcow2"⟩, ⟨"format", some "qcow2"⟩, ⟨"if", some "virtio"⟩,
           ⟨"snapshot", some "on"⟩]),
         ("-netdev", [⟨"user", none⟩, ⟨"id", some "net0"⟩, ⟨"hostfwd", some "tcp::2222-:22"⟩]),
         ("-device", [⟨"virtio-net-pci", none⟩, ⟨"netdev", some "net0"⟩]),
         ("-netdev",
          [⟨"tap", none⟩, ⟨"id", some "net1"⟩, ⟨"ifname", some "tap0"⟩, ⟨"script", some "no"⟩,
           ⟨"downscript", some "no"⟩]),
         ("-device", [⟨"virtio-net-pci", none⟩, ⟨"netdev", some "net1"⟩])] := by
  intro launch config
  have plain : ',' ∉ launch.image.toList := by decide
  have names : ∀ network ∈ config.networks,
      network.name ≠ loopbackAdapter → ',' ∉ network.name.toList := by decide
  obtain ⟨image, same, conveyed⟩ :=
    (machine_conveyed_iff launch (Text.Utf8.encode launch.image) config).mpr
      ⟨⟨launch.image, rfl, plain⟩, names⟩
  have read : image = launch.image := by
    rw [← Text.Utf8.decode_encode image, same, Text.Utf8.decode_encode]
  rw [read] at conveyed
  exact ⟨by decide, conveyed.trans (by decide)⟩

/-- Of an image with a comma in its path the emulator gets the part in front of the comma. -/
theorem machine_not_conveyed_comma :
    let launch : Launch := { image := "disk,1.img" }
    let config : Config :=
      { networks := [⟨"tap0", ⟨10, 0, 0, 2⟩, ⟨10, 0, 0, 1⟩⟩], sshPort := 22, cores := 1,
        ramSize := "512M" }
    config.validate = .ok () ∧
      options (arguments launch config) =
        [("-drive",
          [⟨"file", some "disk"⟩, ⟨"1.img", none⟩, ⟨"format", some "raw"⟩,
           ⟨"if", some "virtio"⟩, ⟨"snapshot", some "on"⟩]),
         ("-netdev", networkSettings [] 0 ⟨"tap0", ⟨10, 0, 0, 2⟩, ⟨10, 0, 0, 1⟩⟩),
         ("-device", deviceSettings 0)] ∧
      options (arguments launch config) ≠ machineOptions launch.image launch.snapshot config := by
  decide

end Testbed.Qemu
