import Libiphone.Basic

/-!
# The USB device layer

`iphone.c`, the first part of the sources, finds the device and opens it.  `iphone_get_device`
(lines 200-216) scans libusb's busses for the first device whose descriptor has Apple's vendor id
0x05ac and a product id from 0x1290 to 0x1293, and hands its bus and device numbers to
`iphone_get_specific_device` (lines 98-182).  That function scans the busses again for the first
device with those numbers, opens and configures it (`iphone_config_usb_device`, lines 38-83), and
runs the usbmux version exchange: it sends the version header and accepts a reply of at least
20 bytes that announces version 1.0.  Every failure after the open goes through
`iphone_free_device` (lines 224-253), which drains the endpoint, releases the interface and
closes the handle.

`usb_open` may return NULL, and the code does not look: line 129 goes on to configure the
device through `phone->device`.  libusb and `usbmux.h` are not among the sources, and what a
libusb call through a NULL handle does is undefined, so the model ends the run at the first
such call, `usb_set_configuration` on line 45, with the calls made so far and no code
(`Opened.ret` is none).  The bus scan is the input `busses`, with each bus and device given by
the numbers `strtoul` and `strtol` read from their names.  What libusb answers is `UsbAnswers`,
as far as the code looks at it.  The calls the code makes on the device are kept as a list of
`UsbCall`s.

What is proved here:

* `iphoneGetDevice_first`: when no two devices of the scan share both numbers, the second scan
  finds the device the first one chose, so `iphone_get_device` opens the first Apple device;
* `iphoneGetSpecificDevice_handle`: on every path, the calls go through a NULL handle exactly
  when the device is found and `usb_open` returns NULL; on every other path they use the handle
  only while it is open, and leave it open exactly when the call succeeds, which is also exactly
  when `*device` changes;
* `iphoneGetSpecificDevice_free`: freeing the device a successful call hands out closes the
  handle again.
-/

namespace Libiphone.Device

/-- A device of libusb's scan, by what the code reads of it. -/
structure UsbDevice where
  /-- `strtol(dev->filename, NULL, 10)`. -/
  filename : Int
  idVendor : Nat
  idProduct : Nat
  deriving DecidableEq, Repr

/-- A bus of libusb's scan, its devices in the order of `dev->next`. -/
structure UsbBus where
  /-- `strtoul(bus->dirname, NULL, 10)`. -/
  dirname : Nat
  devices : List UsbDevice
  deriving DecidableEq, Repr

/-- `IPHONE_E_SUCCESS`. -/
def eSuccess : Int := 0

/-- What `iphone.c` takes from `iphone.h` and `usbmux.h`: the codes it returns, all different,
the header `version_header()` builds, and `ntohl` of the `major` and `minor` fields of a reply. -/
structure DeviceDefs where
  eInvalidArg : Int
  eNoDevice : Int
  eNotEnoughData : Int
  eBadHeader : Int
  eUnknownError : Int
  codes_nodup : [eSuccess, eInvalidArg, eNoDevice, eNotEnoughData, eBadHeader, eUnknownError].Nodup
  versionHeader : List UInt8
  major : List UInt8 → Nat
  minor : List UInt8 → Nat

/-- A call the code makes on a device through libusb. -/
inductive UsbCall
  /-- `usb_open(dev)`, and whether it returned a handle. -/
  | usbOpen (dev : UsbDevice) (handle : Bool)
  | setConfiguration (configuration : Nat)
  | detachKernelDriver
  | claimInterface (interface : Nat)
  | bulkRead (size : Nat)
  | bulkWrite (data : List UInt8)
  | releaseInterface (interface : Nat)
  | usbClose
  deriving DecidableEq, Repr

/-- What libusb answers, where the code looks at the answer: the results of
`usb_claim_interface`, of the second `usb_set_configuration` and of the version write are only
logged. -/
structure UsbAnswers where
  /-- Whether `usb_open` returns a handle rather than NULL. -/
  usbOpen : Bool
  /-- The first `usb_set_configuration(phone->device, 3)`. -/
  setConfiguration : Int
  detachKernelDriver : Int
  /-- How many reads of the drain in `iphone_config_usb_device` return data before one does
  not. -/
  initialReads : Nat
  /-- The count the read of the version reply returns. -/
  versionRead : Int
  /-- The bytes that read leaves in the header. -/
  reply : List UInt8
  /-- How many reads of the drain in `iphone_free_device` return data before one does not. -/
  finalReads : Nat

/-- `struct iphone_device_int`, by its `usb_dev_handle`: NULL before `usb_open`, otherwise the
device it opened.  The `buffer` is NULL in every device this file builds. -/
structure IphoneDevice where
  device : Option UsbDevice
  deriving DecidableEq, Repr

/-- A `do { bytes = usb_bulk_read(..., 512, 800); } while (bytes > 0);` loop whose first `reads`
reads return data. -/
def drain (reads : Nat) : List UsbCall := List.replicate (reads + 1) (.bulkRead 512)

/-- `iphone_config_usb_device(phone)` (lines 38-83): the calls it makes.  The configuration is
set again only when the first attempt failed and the kernel driver was detached. -/
def iphoneConfigUsbDevice (a : UsbAnswers) : List UsbCall :=
  .setConfiguration 3 ::
    ((if a.setConfiguration ≠ 0 then
        .detachKernelDriver :: (if a.detachKernelDriver ≠ 0 then [] else [.setConfiguration 3])
      else []) ++
    .claimInterface 1 :: drain a.initialReads)

/-- `iphone_free_device(device)` (lines 224-253): its code and the calls it makes. -/
def iphoneFreeDevice (D : DeviceDefs) (device : Option IphoneDevice) (finalReads : Nat) :
    Int × List UsbCall :=
  match device with
  | none => (D.eInvalidArg, [])
  | some phone =>
    match phone.device with
    | none => (D.eUnknownError, [])
    | some _ => (eSuccess, drain finalReads ++ [.releaseInterface 1, .usbClose])

/-- Lines 117-127: the first device, in the order of the busses and of their devices, on a bus
numbered `busN` and itself numbered `devN`. -/
def findSpecific (busN : Nat) (devN : Int) : List UsbBus → Option UsbDevice
  | [] => none
  | bus :: busses =>
    match (if bus.dirname = busN then bus.devices.find? (·.filename = devN) else none) with
    | some dev => some dev
    | none => findSpecific busN devN busses

/-- What `iphone_get_specific_device` returns, what `*device` holds afterwards (none when
`device` is NULL), and the calls it made. -/
structure Opened where
  /-- The code returned; none when the run ends in a libusb call through a NULL handle, whose
  effect is undefined. -/
  ret : Option Int
  device : Option (Option IphoneDevice)
  calls : List UsbCall

namespace DeviceDefs

variable (D : DeviceDefs)

theorem eInvalidArg_ne : D.eInvalidArg ≠ eSuccess := by
  have := D.codes_nodup; simp_all [eq_comm]

theorem eNoDevice_ne : D.eNoDevice ≠ eSuccess := by
  have := D.codes_nodup; simp_all [eq_comm]

theorem eNotEnoughData_ne : D.eNotEnoughData ≠ eSuccess := by
  have := D.codes_nodup; simp_all [eq_comm]

theorem eBadHeader_ne : D.eBadHeader ≠ eSuccess := by
  have := D.codes_nodup; simp_all [eq_comm]

end DeviceDefs

variable (D : DeviceDefs)

/-- Lines 123-182: open and configure the device found, then the version exchange.  When
`usb_open` returns NULL, the first call of `iphone_config_usb_device` goes through it, and the
run ends there. -/
def versionExchange (dev : UsbDevice) (a : UsbAnswers) : Opened :=
  if a.usbOpen then
    let calls := .usbOpen dev true ::
      (iphoneConfigUsbDevice a ++ [.bulkWrite D.versionHeader, .bulkRead D.versionHeader.length])
    if a.versionRead < 20 then
      ⟨some D.eNotEnoughData, some none,
        calls ++ (iphoneFreeDevice D (some ⟨some dev⟩) a.finalReads).2⟩
    else if D.major a.reply = 1 ∧ D.minor a.reply = 0 then
      ⟨some eSuccess, some (some ⟨some dev⟩), calls⟩
    else
      ⟨some D.eBadHeader, some none,
        calls ++ (iphoneFreeDevice D (some ⟨some dev⟩) a.finalReads).2⟩
  else ⟨none, some none, [.usbOpen dev false, .setConfiguration 3]⟩

/-- `iphone_get_specific_device(bus_n, dev_n, device)` (lines 98-182).  When no device has the
numbers, the phone it allocated is freed with its handle still NULL, which makes no call. -/
def iphoneGetSpecificDevice (busN : Nat) (devN : Int) (device : Option (Option IphoneDevice))
    (busses : List UsbBus) (a : UsbAnswers) : Opened :=
  match device with
  | some none =>
    match findSpecific busN devN busses with
    | none => ⟨some D.eNoDevice, device, []⟩
    | some dev => versionExchange D dev a
  | _ => ⟨some D.eInvalidArg, device, []⟩

/-- The test of line 210: Apple's vendor id and a product id from 0x1290 to 0x1293. -/
def isApple (dev : UsbDevice) : Bool :=
  dev.idVendor = 0x05ac ∧ 0x1290 ≤ dev.idProduct ∧ dev.idProduct ≤ 0x1293

/-- The loops of lines 208-209: the first bus with an Apple device, by its number, and the first
such device on it. -/
def findApple : List UsbBus → Option (Nat × UsbDevice)
  | [] => none
  | bus :: busses =>
    match bus.devices.find? isApple with
    | some dev => some (bus.dirname, dev)
    | none => findApple busses

/-- `iphone_get_device(device)` (lines 200-216).  The `unsigned long` of `strtoul` is passed as
an `unsigned int`, and the `long` of `strtol` as an `int`. -/
def iphoneGetDevice (device : Option (Option IphoneDevice)) (busses : List UsbBus)
    (a : UsbAnswers) : Opened :=
  match findApple busses with
  | some (busN, dev) =>
    iphoneGetSpecificDevice D (busN % 2 ^ 32) (asInt32 (asUInt32 dev.filename)) device
      busses a
  | none => ⟨some D.eNoDevice, device, []⟩

/-- `send_to_phone(phone, data, datalen)` (lines 263-284), given what `usb_bulk_write` returns:
the count when all of `data` went out, -1 otherwise. -/
def sendToPhone (phone : Option IphoneDevice) (data : List UInt8) (datalen written : Int) :
    Int × List UsbCall :=
  match phone with
  | none => (-1, [])
  | some _ => (if written < datalen then -1 else written, [.bulkWrite data])

/-- `recv_from_phone(phone, data, datalen, timeout)` (lines 295-313), given what
`usb_bulk_read` returns. -/
def recvFromPhone (phone : Option IphoneDevice) (datalen : Nat) (got : Int) :
    Int × List UsbCall :=
  match phone with
  | none => (-1, [])
  | some _ => (if got < 0 then -1 else got, [.bulkRead datalen])

/-! ## A scan to evaluate the model at -/

/-- The usbmux version header as five big-endian `uint32_t`s: type 0, length 20, version 1.0 and
a zero. -/
def sampleVersionHeader : List UInt8 :=
  [0, 0, 0, 0, 0, 0, 0, 20, 0, 0, 0, 1, 0, 0, 0, 0, 0, 0, 0, 0]

/-- One table that meets `DeviceDefs`: the codes numbered as their `IDEVICE_E_` successors in the
common header, and the header laid out as `sampleVersionHeader`. -/
def sampleDeviceDefs : DeviceDefs where
  eInvalidArg := -1
  eNoDevice := -3
  eNotEnoughData := -4
  eBadHeader := -5
  eUnknownError := -2
  codes_nodup := by decide
  versionHeader := sampleVersionHeader
  major reply := ofBeBytes ((reply.drop 8).take 4)
  minor reply := ofBeBytes ((reply.drop 12).take 4)

/-- Two busses: a keyboard on the first, a mouse and then an iPhone on the second. -/
def sampleScan : List UsbBus :=
  [⟨1, [⟨2, 0x046d, 0xc31c⟩]⟩, ⟨2, [⟨1, 0x046d, 0xc077⟩, ⟨5, 0x05ac, 0x1292⟩]⟩]

/-- A device that takes its configuration at once, has one packet queued, and answers the version
header with itself. -/
def sampleAnswers : UsbAnswers := ⟨true, 0, 0, 1, 20, sampleVersionHeader, 0⟩

/-! ## The two scans -/

/-- The devices of the scan, in the order both loops visit them, each with its bus number. -/
def numbers (busses : List UsbBus) : List (Nat × UsbDevice) :=
  busses.flatMap fun bus => bus.devices.map (bus.dirname, ·)

/-- The numbers of every bus and device survive the conversions of `iphone_get_device`, and no
two devices of the scan have both numbers alike. -/
structure Numbered (busses : List UsbBus) : Prop where
  dirname_lt : ∀ p ∈ numbers busses, p.1 < 2 ^ 32
  filename_ge : ∀ p ∈ numbers busses, -2 ^ 31 ≤ p.2.filename
  filename_lt : ∀ p ∈ numbers busses, p.2.filename < 2 ^ 31
  nodup : ((numbers busses).map fun p => (p.1, p.2.filename)).Nodup

instance (busses : List UsbBus) : Decidable (Numbered busses) :=
  decidable_of_iff ((∀ p ∈ numbers busses, p.1 < 2 ^ 32) ∧
      (∀ p ∈ numbers busses, -2 ^ 31 ≤ p.2.filename) ∧
      (∀ p ∈ numbers busses, p.2.filename < 2 ^ 31) ∧
      ((numbers busses).map fun p => (p.1, p.2.filename)).Nodup)
    ⟨fun ⟨h1, h2, h3, h4⟩ => ⟨h1, h2, h3, h4⟩, fun ⟨h1, h2, h3, h4⟩ => ⟨h1, h2, h3, h4⟩⟩

@[simp] theorem numbers_nil : numbers [] = [] := rfl

@[simp] theorem numbers_cons (bus : UsbBus) (busses : List UsbBus) :
    numbers (bus :: busses) = bus.devices.map (bus.dirname, ·) ++ numbers busses := rfl

/-- The search of `iphone_get_specific_device` is a search through the scan's devices. -/
theorem findSpecific_eq (busN : Nat) (devN : Int) (busses : List UsbBus) :
    findSpecific busN devN busses =
      ((numbers busses).find? fun p => p.1 = busN ∧ p.2.filename = devN).map Prod.snd := by
  induction busses with
  | nil => rfl
  | cons bus busses ih =>
    rw [numbers_cons, List.find?_append, List.find?_map]
    by_cases hbus : bus.dirname = busN
    · cases hd : bus.devices.find? (·.filename = devN) <;>
        simp [findSpecific, hbus, hd, ih, Function.comp_def]
    · have hnone : bus.devices.find? (fun _ => false) = none := List.find?_eq_none.mpr (by simp)
      simp [findSpecific, hbus, ih, Function.comp_def, hnone]

/-- So is the search of `iphone_get_device`. -/
theorem findApple_eq (busses : List UsbBus) :
    findApple busses = (numbers busses).find? fun p => isApple p.2 := by
  induction busses with
  | nil => rfl
  | cons bus busses ih =>
    rw [numbers_cons, List.find?_append, List.find?_map]
    cases hd : bus.devices.find? isApple <;> simp [findApple, hd, ih, Function.comp_def]

/-- In a list where `key` tells the elements apart, searching for the key of a member finds it. -/
theorem find?_key_of_mem {α κ : Type} [DecidableEq κ] (key : α → κ) {l : List α} {x : α}
    (hx : x ∈ l) (hnodup : (l.map key).Nodup) : l.find? (fun y => key y = key x) = some x := by
  induction l with
  | nil => cases hx
  | cons y l ih =>
    rw [List.map_cons, List.nodup_cons] at hnodup
    by_cases hy : key y = key x
    · rw [List.find?_cons_of_pos _ (by simpa using hy)]
      rcases List.mem_cons.mp hx with rfl | hx
      · rfl
      · exact absurd (hy ▸ List.mem_map_of_mem key hx) hnodup.1
    · rw [List.find?_cons_of_neg _ (by simpa using hy)]
      exact ih ((List.mem_cons.mp hx).resolve_left fun h => hy (h ▸ rfl)) hnodup.2

/-- A number of `int` range survives the trip through `unsigned int` and back. -/
theorem asInt32_asUInt32 {n : Int} (h1 : -2 ^ 31 ≤ n) (h2 : n < 2 ^ 31) :
    asInt32 (asUInt32 n) = n := by
  unfold asInt32 asUInt32
  omega

/-- When no two devices of the scan share both numbers, `iphone_get_device` is the version
exchange with the first Apple device of the scan, and reports `IPHONE_E_NO_DEVICE` when there
is none: the second scan, by the numbers, finds the device the first one chose. -/
theorem iphoneGetDevice_first {busses : List UsbBus} (hnum : Numbered busses)
    (device : Option (Option IphoneDevice)) (a : UsbAnswers) :
    iphoneGetDevice D device busses a =
      match (numbers busses).find? (fun p => isApple p.2) with
      | none => ⟨D.eNoDevice, device, []⟩
      | some (_, dev) =>
        if device = some none then versionExchange D dev a else ⟨D.eInvalidArg, device, []⟩ := by
  rw [iphoneGetDevice, findApple_eq]
  rcases hfind : (numbers busses).find? (fun p => isApple p.2) with _ | ⟨busN, dev⟩
  · simp only [hfind]
  have hmem := List.mem_of_find?_eq_some hfind
  have hbus : busN % 2 ^ 32 = busN := Nat.mod_eq_of_lt (hnum.dirname_lt _ hmem)
  have hdev : asInt32 (asUInt32 dev.filename) = dev.filename :=
    asInt32_asUInt32 (hnum.filename_ge _ hmem) (hnum.filename_lt _ hmem)
  have hspec : findSpecific busN dev.filename busses = some dev := by
    rw [findSpecific_eq]
    simpa only [Prod.mk.injEq, decide_eq_true_eq] using
      congrArg (Option.map Prod.snd) (find?_key_of_mem (fun p => (p.1, p.2.filename)) hmem hnum.nodup)
  simp only [hfind]
  rw [hbus, hdev]
  rcases device with _ | _ | _ <;> simp [iphoneGetSpecificDevice, hspec]

/-- On the sample scan, whose numbers tell its devices apart, `iphone_get_device` opens the
iPhone on the second bus and succeeds. -/
theorem iphoneGetDevice_first_phone :
    Numbered sampleScan ∧
      (iphoneGetDevice sampleDeviceDefs (some none) sampleScan sampleAnswers).ret = eSuccess ∧
      (iphoneGetDevice sampleDeviceDefs (some none) sampleScan sampleAnswers).device =
        some (some ⟨some ⟨5, 0x05ac, 0x1292⟩⟩) := by
  have hnum : Numbered sampleScan := by decide
  rw [iphoneGetDevice_first sampleDeviceDefs hnum]
  exact ⟨hnum, by decide, by decide⟩

/-! ## The handle -/

/-- Where the device's `usb_dev_handle` stands. -/
inductive Handle
  | closed
  | opened
  deriving DecidableEq, Repr

/-- What libusb allows: where there is no handle, one can be opened, and stays missing when
`usb_open` returns NULL; an open one can be used and closed. -/
def Handle.step : Handle → UsbCall → Option Handle
  | .closed, .usbOpen _ handle => some (if handle then .opened else .closed)
  | .closed, _ => none
  | .opened, .usbOpen _ _ => none
  | .opened, .usbClose => some .closed
  | .opened, _ => some .opened

/-- A run of calls from the handle `h`, none when one of them is not allowed. -/
def Handle.run (h : Handle) : List UsbCall → Option Handle
  | [] => some h
  | c :: cs => (h.step c).bind (run · cs)

@[simp] theorem Handle.run_nil (h : Handle) : h.run [] = some h := rfl

@[simp] theorem Handle.run_cons (h : Handle) (c : UsbCall) (cs : List UsbCall) :
    h.run (c :: cs) = (h.step c).bind (run · cs) := rfl

theorem Handle.run_append (h : Handle) (l₁ l₂ : List UsbCall) :
    h.run (l₁ ++ l₂) = (h.run l₁).bind (run · l₂) := by
  induction l₁ generalizing h with
  | nil => rfl
  | cons c cs ih =>
    simp only [List.cons_append, Handle.run_cons, ih]
    cases h.step c <;> rfl

/-- A call that neither opens nor closes the handle. -/
def UsbCall.IsIo : UsbCall → Prop
  | .usbOpen _ _ | .usbClose => False
  | _ => True

theorem Handle.step_opened_of_io {c : UsbCall} (hc : c.IsIo) : Handle.opened.step c = some .opened := by
  cases c <;> first | rfl | exact hc.elim

/-- Calls that neither open nor close keep an open handle open. -/
theorem Handle.run_opened_of_io {l : List UsbCall} (hio : ∀ c ∈ l, c.IsIo) :
    Handle.opened.run l = some .opened := by
  induction l with
  | nil => rfl
  | cons c cs ih =>
    rw [List.forall_mem_cons] at hio
    rw [Handle.run_cons, Handle.step_opened_of_io hio.1, Option.some_bind, ih hio.2]

theorem drain_io (reads : Nat) : ∀ c ∈ drain reads, c.IsIo := by
  intro c hc
  rw [drain, List.mem_replicate] at hc
  rw [hc.2]
  trivial

theorem iphoneConfigUsbDevice_io (a : UsbAnswers) : ∀ c ∈ iphoneConfigUsbDevice a, c.IsIo := by
  simp only [iphoneConfigUsbDevice, List.forall_mem_cons, List.forall_mem_append]
  refine ⟨trivial, ?_, trivial, drain_io _⟩
  split_ifs <;> simp [UsbCall.IsIo]

/-- Freeing an opened device closes its handle and succeeds. -/
theorem iphoneFreeDevice_opened (dev : UsbDevice) (finalReads : Nat) :
    iphoneFreeDevice D (some ⟨some dev⟩) finalReads =
        (eSuccess, drain finalReads ++ [.releaseInterface 1, .usbClose]) ∧
      Handle.opened.run (drain finalReads ++ [.releaseInterface 1, .usbClose]) = some .closed := by
  refine ⟨rfl, ?_⟩
  rw [Handle.run_append, Handle.run_opened_of_io (drain_io finalReads)]
  rfl

/-- The version exchange, when `usb_open` returns a handle, uses it and closes it again unless it
succeeds, in which case it hands the opened device out; when `usb_open` returns NULL, its next
call goes through the NULL handle and the run has no code. -/
theorem versionExchange_handle (dev : UsbDevice) (a : UsbAnswers) :
    Handle.closed.run (versionExchange D dev a).calls =
        (versionExchange D dev a).ret.map (fun ret => if ret = eSuccess then .opened else .closed) ∧
      ((versionExchange D dev a).ret = none ↔ a.usbOpen = false) ∧
      ((versionExchange D dev a).ret = some eSuccess ∧
          (versionExchange D dev a).device = some (some ⟨some dev⟩) ∨
        (versionExchange D dev a).ret ≠ some eSuccess ∧
          (versionExchange D dev a).device = some none) := by
  cases hopen : a.usbOpen
  · simp [versionExchange, hopen, Handle.step]
  have hrun : Handle.closed.run
      (.usbOpen dev true :: (iphoneConfigUsbDevice a ++
        [.bulkWrite D.versionHeader, .bulkRead D.versionHeader.length])) =
        some .opened :=
    Handle.run_opened_of_io fun c hc => by
      rcases List.mem_append.mp hc with hc | hc
      · exact iphoneConfigUsbDevice_io a c hc
      · rcases List.mem_pair.mp hc with rfl | rfl <;> trivial
  have hfail : Handle.closed.run
      ((.usbOpen dev true :: (iphoneConfigUsbDevice a ++
          [.bulkWrite D.versionHeader, .bulkRead D.versionHeader.length])) ++
        (iphoneFreeDevice D (some ⟨some dev⟩) a.finalReads).2) = some .closed := by
    obtain ⟨hfree, hclose⟩ := iphoneFreeDevice_opened D dev a.finalReads
    rw [Handle.run_append, hrun, Option.some_bind, hfree]
    exact hclose
  unfold versionExchange
  by_cases h20 : a.versionRead < 20
  · simp only [hopen, if_true, if_pos h20, Option.map_some', if_neg D.eNotEnoughData_ne]
    exact ⟨hfail, by simp, .inr ⟨by simpa using D.eNotEnoughData_ne, trivial⟩⟩
  by_cases hv : D.major a.reply = 1 ∧ D.minor a.reply = 0
  · simp only [hopen, if_true, if_neg h20, if_pos hv, Option.map_some']
    exact ⟨hrun, by simp, .inl ⟨trivial, trivial⟩⟩
  · simp only [hopen, if_true, if_neg h20, if_neg hv, Option.map_some', if_neg D.eBadHeader_ne]
    exact ⟨hfail, by simp, .inr ⟨by simpa using D.eBadHeader_ne, trivial⟩⟩

/-- On every path of `iphone_get_specific_device`, whatever the bus scan and whatever libusb
answers: the calls go through a NULL handle, and the run has no code, exactly when the device is
found and `usb_open` returns NULL.  On every other path the calls use the handle only while it
is open, and leave it open exactly when the call succeeds; `*device` changes exactly then, to
the device the handle was opened on. -/
theorem iphoneGetSpecificDevice_handle (busN : Nat) (devN : Int)
    (device : Option (Option IphoneDevice)) (busses : List UsbBus) (a : UsbAnswers) :
    let r := iphoneGetSpecificDevice D busN devN device busses a
    Handle.closed.run r.calls = r.ret.map (fun ret => if ret = eSuccess then .opened else .closed) ∧
      (r.ret = none ↔
        device = some none ∧ (findSpecific busN devN busses).isSome ∧ a.usbOpen = false) ∧
      (r.ret = some eSuccess ↔ r.device ≠ device) := by
  have hne : D.eNoDevice ≠ eSuccess ∧ D.eInvalidArg ≠ eSuccess :=
    ⟨D.eNoDevice_ne, D.eInvalidArg_ne⟩
  rcases device with _ | _ | phone
  · simp [iphoneGetSpecificDevice, hne]
  · rcases hfind : findSpecific busN devN busses with _ | dev
    · simp [iphoneGetSpecificDevice, hfind, hne]
    · obtain ⟨hrun, hnull, ⟨hret, hdev⟩ | ⟨hret, hdev⟩⟩ := versionExchange_handle D dev a
      · have hopen : a.usbOpen ≠ false := fun h => by simp [hnull.mpr h] at hret
        simp [iphoneGetSpecificDevice, hfind, hrun, hret, hdev, hopen]
      · simp [iphoneGetSpecificDevice, hfind, hrun, hnull, hret, hdev]
  · simp [iphoneGetSpecificDevice, hne]

/-- The iPhone of the sample scan, when `usb_open` returns NULL: the first call after the open is
made through the NULL handle. -/
example : (iphoneGetSpecificDevice sampleDeviceDefs 2 5 (some none) sampleScan
    { sampleAnswers with usbOpen := false }).calls =
      [.usbOpen ⟨5, 0x05ac, 0x1292⟩ false, .setConfiguration 3] := rfl

/-- Freeing the device a successful `iphone_get_specific_device` hands out closes the handle
it opened: the calls of both run from a closed handle to a closed one, and the free succeeds. -/
theorem iphoneGetSpecificDevice_free (busN : Nat) (devN : Int)
    (device : Option (Option IphoneDevice)) (busses : List UsbBus) (a : UsbAnswers)
    (finalReads : Nat) {phone : IphoneDevice}
    (hret : (iphoneGetSpecificDevice D busN devN device busses a).ret = eSuccess)
    (hphone : (iphoneGetSpecificDevice D busN devN device busses a).device = some (some phone)) :
    (iphoneFreeDevice D (some phone) finalReads).1 = eSuccess ∧
      Handle.closed.run ((iphoneGetSpecificDevice D busN devN device busses a).calls ++
        (iphoneFreeDevice D (some phone) finalReads).2) = some .closed := by
  have hne : D.eNoDevice ≠ eSuccess ∧ D.eInvalidArg ≠ eSuccess :=
    ⟨D.eNoDevice_ne, D.eInvalidArg_ne⟩
  rcases device with _ | _ | _
  · exact absurd hret (by simpa [iphoneGetSpecificDevice] using hne.2)
  · rcases hfind : findSpecific busN devN busses with _ | dev
    · exact absurd hret (by simpa [iphoneGetSpecificDevice, hfind] using hne.1)
    · simp only [iphoneGetSpecificDevice, hfind] at hret hphone ⊢
      obtain ⟨hrun, -, ⟨-, hdev⟩ | ⟨hne', -⟩⟩ := versionExchange_handle D dev a
      · obtain rfl : phone = ⟨some dev⟩ := by simpa [hdev] using hphone.symm
        obtain ⟨hfree, hclose⟩ := iphoneFreeDevice_opened D dev finalReads
        rw [hret, Option.map_some', if_pos rfl] at hrun
        refine ⟨by rw [hfree], ?_⟩
        rw [Handle.run_append, hrun, Option.some_bind, hfree]
        exact hclose
      · exact absurd hret hne'
  · exact absurd hret (by simpa [iphoneGetSpecificDevice] using hne.2)

/-- Opening the iPhone of the sample scan by its numbers, and freeing it again. -/
theorem iphoneGetSpecificDevice_free_phone :
    (iphoneGetSpecificDevice sampleDeviceDefs 2 5 (some none) sampleScan sampleAnswers).ret =
        eSuccess ∧
      (iphoneGetSpecificDevice sampleDeviceDefs 2 5 (some none) sampleScan sampleAnswers).device =
        some (some ⟨some ⟨5, 0x05ac, 0x1292⟩⟩) ∧
      (iphoneFreeDevice sampleDeviceDefs (some ⟨some ⟨5, 0x05ac, 0x1292⟩⟩) 0).1 = eSuccess ∧
      Handle.closed.run
        ((iphoneGetSpecificDevice sampleDeviceDefs 2 5 (some none) sampleScan sampleAnswers).calls ++
          (iphoneFreeDevice sampleDeviceDefs (some ⟨some ⟨5, 0x05ac, 0x1292⟩⟩) 0).2) = some .closed :=
  have hret : (iphoneGetSpecificDevice sampleDeviceDefs 2 5 (some none) sampleScan
      sampleAnswers).ret = eSuccess := by decide
  have hphone : (iphoneGetSpecificDevice sampleDeviceDefs 2 5 (some none) sampleScan
      sampleAnswers).device = some (some ⟨some ⟨5, 0x05ac, 0x1292⟩⟩) := by decide
  ⟨hret, hphone, iphoneGetSpecificDevice_free sampleDeviceDefs 2 5 (some none) sampleScan
    sampleAnswers 0 hret hphone⟩

end Libiphone.Device
