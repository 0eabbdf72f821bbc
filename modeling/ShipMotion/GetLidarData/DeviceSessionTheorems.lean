import ShipMotion.GetLidarData.DeviceConfigTheorems

/-!
# What the lidar is sent

A packet that is sent is the device packet it was copied from, with the header, some zeros, and the
fields that setters have set; read as `getLidarParamState` reads a packet, it shows what the calls
that succeeded since the copy have set, the last one of each kind, and nothing else differs from the
device packet. Only what is sent before the first copy is none of this: it is what the buffer held
when the object was made.
-/

namespace ShipMotion
namespace GetLidarData

open Utils Utils.Json

/-! ## The copy and the calls after it -/

/-- The call is one that sets a port. -/
def Setting.SetsPort : Setting → Prop
  | .dataPort _ | .devPort _ => True
  | _ => False

/-- The buffer holds the device packet `base`, prepared for sending, after the calls `settings`. -/
structure Configured (base buff : Packet) (settings : List Setting) : Prop where
  valid : ∀ c ∈ settings, c.Valid
  config : configOf buff = settings.foldl Setting.show (configOf base)
  param : ∀ w ∈ paramWrites, buff w.1 = w.2
  frame : ∀ i, i ∉ paramWrites.map Prod.fst → (∀ c ∈ settings, i ∉ c.fields) → buff i = base i
  ports : (∃ c ∈ settings, c.SetsPort) → portAt buff 24 ≠ portAt buff 26

/-- A buffer is what the last of the first `copied` device packets became, if there was a copy. -/
def Made (arrived : List Packet) (copies copied : ℕ) (buff : Packet) (settings : List Setting) :
    Prop :=
  (copies = 0 ∧ settings = []) ∨
    ∃ base, 0 < copied ∧ arrived[copied - 1]? = some base ∧ Configured base buff settings

/-- What holds of the packets that were sent: a copy is sent in one form only, and no copy after a
later one. -/
structure SentInv (arrived : List Packet) (sent : List Sent) : Prop where
  made : ∀ p ∈ sent, Made arrived p.copies p.copied p.packet p.settings
  address : ∀ p ∈ sent, p.ip_data = [] ∨ ∃ data ∈ arrived, p.ip_data = showIP data 10
  same : ∀ p ∈ sent, ∀ q ∈ sent, p.copies = q.copies → p.packet = q.packet ∧ p.settings = q.settings
  ordered : sent.Pairwise fun p q => p.copies ≤ q.copies ∧ p.copied ≤ q.copied

/-- The device packets that still allow a copy: the one `islidarDevCome` tells of, and the one for
which the user's thread is about to make it. -/
def Device.pending (s : Device) : ℕ :=
  (if s.islidarDevCome then 1 else 0) +
    match s.user with
    | .idle => 0
    | .copying _ _ => 1

/-- What holds in every state. -/
structure DeviceInv (s : Device) : Prop where
  dataDev : ∀ data, s.arrived.getLast? = some data → s.dataDev = data
  ip_sa : s.ip_sa = [] ∨ ∃ data ∈ s.arrived, s.ip_sa = showIP data 10
  copies_le : s.copies + s.pending ≤ s.arrived.length
  copied_le : s.copied ≤ s.arrived.length
  buff : Made s.arrived s.copies s.copied s.Rest_UCWP_buff s.applied
  prepared : s.user = .idle → s.isSendUDP = false → 0 < s.copies
  copying : ∀ setting InfoString, s.user = .copying setting InfoString →
    s.isSendUDP = false ∧ setting.setter.formatOk = true
  sent_le : ∀ p ∈ s.sent, p.copies ≤ s.copies ∧ p.copied ≤ s.copied
  resent : s.user = .idle → ∀ p ∈ s.sent, p.copies = s.copies →
    s.isSendUDP = true ∧ p.packet = s.Rest_UCWP_buff ∧ p.settings = s.applied
  sent : SentInv s.arrived s.sent
  answers : none ∉ s.answers

theorem inv_initial (dataDev Rest_UCWP_buff : Packet) :
    DeviceInv (Device.initial dataDev Rest_UCWP_buff) where
  dataDev data h := by cases h
  ip_sa := Or.inl rfl
  copies_le := Nat.le_refl 0
  copied_le := Nat.le_refl 0
  buff := Or.inl ⟨rfl, rfl⟩
  prepared _ h := by cases h
  copying _ _ h := by cases h
  sent_le p hp := by cases hp
  resent _ p hp := by cases hp
  sent :=
    { made := by
        intro p hp
        cases hp
      address := by
        intro p hp
        cases hp
      same := by
        intro p hp
        cases hp
      ordered := List.Pairwise.nil }
  answers h := by cases h

/-- A device packet, with an address. -/
def devicePacket : Packet := fun i =>
  if i = 1 then 0xff else if i = 3 then 0x5a else if i = 10 then 192 else 0

end GetLidarData
end ShipMotion
