import VirtualUSB.Vhci.Driver

/-!
# The status tables of the kernel

The kernel describes the ports of a controller in a text: a header line and a row for each port.
`StatusTable.text` is this text, `Udev.Lists` says that the attributes of the host controller hold
the texts of the given tables.

`hubOfClass` is the hub that carries a speed, and `leastFree` the port that a search for a free port
is about: the smallest number of a row with the hub asked for and the status `VDEV_ST_NULL`.
-/

namespace VirtualUSB

open Scan

/-! ### Rows -/

/-- A row of a status table. -/
structure StatusRow where
  hub : HubSpeed
  port : ℕ
  status : UInt32
  speed : UInt32
  devid : UInt32
  sockfd : UInt32
  busid : List Char
  busid_ne_nil : busid ≠ []
  busid_word : ∀ c ∈ busid, isSpace c = false

/-- `hs` or `ss`. -/
def HubSpeed.tag : HubSpeed → List Char
  | .high => ['h', 's']
  | .super => ['s', 's']

namespace StatusRow

/-- `"%s  %04u %03u %03u %08x %06u %s"` -/
def text (r : StatusRow) : List Char :=
  r.hub.tag ++ ' ' :: ' ' :: (padded 10 4 r.port ++ ' ' :: (padded 10 3 r.status.toNat ++
    ' ' :: (padded 10 3 r.speed.toNat ++ ' ' :: (padded 16 8 r.devid.toNat ++
      ' ' :: (padded 10 6 r.sockfd.toNat ++ ' ' :: r.busid)))))

/-- A row is a line. -/
def line (r : StatusRow) : List Char :=
  r.text ++ ['\n']

/-- The port is free. -/
def Free (r : StatusRow) (hub : HubSpeed) : Prop :=
  r.hub = hub ∧ r.status = UsbipStatus.vdevStNull

instance (r : StatusRow) (hub : HubSpeed) : Decidable (r.Free hub) :=
  inferInstanceAs (Decidable (_ ∧ _))

end StatusRow

/-! ### Tables -/

/-- The status of the ports of a controller. -/
structure StatusTable where
  header : List Char
  rows : List StatusRow
  header_line : '\n' ∉ header

def StatusTable.text (t : StatusTable) : List Char :=
  t.header ++ '\n' :: t.rows.flatMap StatusRow.line

/-- The rows of all tables. -/
def rowsOf (tables : List StatusTable) : List StatusRow :=
  tables.flatMap StatusTable.rows

/-- The attributes of the host controller hold the tables, one for each controller. -/
structure Udev.Lists (u : Udev) (tables : List StatusTable) : Prop where
  scandir : u.scandir = tables.length
  status : ∀ i table, tables[i]? = some table → u.sysattr (statusName i) = some table.text

/-- No port has two rows, and all numbers are in range. -/
structure PortsListed (rows : List StatusRow) (nports : ℕ) : Prop where
  nodup : (rows.map StatusRow.port).Nodup
  lt : ∀ r ∈ rows, r.port < nports

/-! ### The port to choose -/

/-- The hub that carries the speed. -/
def hubOfClass (speed : UInt32) : HubSpeed :=
  if speed = Speed.super ∨ speed = Speed.superPlus then .super else .high

/-- `usbip_vhci_get_free_port` knows the hub of every speed but `USB_SPEED_SUPER_PLUS`. -/
theorem hubOfClass_of_ne {speed : UInt32} (hplus : speed ≠ Speed.superPlus) :
    hubOfClass speed = hubOfSpeed speed := by
  simp [hubOfClass, hubOfSpeed, hplus]

/-- The smallest number of a free port on the hub. -/
def leastFree (rows : List StatusRow) (hub : HubSpeed) : Option ℕ :=
  ((rows.filter fun r => r.Free hub).map StatusRow.port).min?

theorem leastFree_eq_none_iff {rows : List StatusRow} {hub : HubSpeed} :
    leastFree rows hub = none ↔ ∀ r ∈ rows, ¬ r.Free hub := by
  simp [leastFree]

theorem leastFree_eq_some_iff {rows : List StatusRow} {hub : HubSpeed} {p : ℕ} :
    leastFree rows hub = some p ↔
      (∃ r ∈ rows, r.Free hub ∧ r.port = p) ∧ ∀ r ∈ rows, r.Free hub → p ≤ r.port := by
  have hmem : ∀ q, q ∈ (rows.filter fun r => r.Free hub).map StatusRow.port ↔
      ∃ r ∈ rows, r.Free hub ∧ r.port = q := by
    intro q
    simp [and_assoc]
  rw [leastFree, List.min?_eq_some_iff, hmem]
  refine and_congr_right fun _ => ⟨fun h r hr hfree => h _ ((hmem _).mpr ⟨r, hr, hfree, rfl⟩), ?_⟩
  rintro h q hq
  obtain ⟨r, hr, hfree, rfl⟩ := (hmem q).mp hq
  exact h r hr hfree

end VirtualUSB
