import Mathlib.Logic.Function.Basic
import ShipMotion.GetLidarData
import ShipMotion.Utils.DottedQuad
import ShipMotion.Utils.Json
import ShipMotion.Utils.TransitionSystem

/-!
# Setting up the lidar

The user changes the lidar by setters, which write into a copy of the last device packet, and by
`sendPackUDP`, which sends the copy. The copy is made by the first setter after a send, and only if
`islidarDevCome` tells of a device packet; other setters write into the copy there is. The receiving
threads keep storing device packets, so that the copy, which is made under the mutex after the two
flags were set outside of it, is a step of its own. The user calls from one thread.

What is only printed on the console is left out, as are the socket and the measured values of
`getLidarParamState`.
-/

namespace ShipMotion
namespace GetLidarData

open Utils Utils.Json

/-! ## Texts -/

/-- The characters of a word, as `\b` has them. -/
def isWord (c : Char) : Bool := c.isAlphanum || c = '_'

/-- `[lo-hi]` -/
def range (lo hi : Char) : Regex Char := .char fun c => lo.toNat ≤ c.toNat && c.toNat ≤ hi.toNat

/-- `25[0-5]|2[0-4][0-9]|[01]?[0-9][0-9]?` -/
def octet : Regex Char :=
  .alt (.seq (range '2' '2') (.seq (range '5' '5') (range '0' '5')))
    (.alt (.seq (range '2' '2') (.seq (range '0' '4') (range '0' '9')))
      (.seq (range '0' '1').opt (.seq (range '0' '9') (range '0' '9').opt)))

/-- `\b(?:(?:octet)\.){3}(?:octet)\b` -/
def ipv4 : Regex Char := .seq (.boundary isWord) (.seq (Regex.dotted octet) (.boundary isWord))

/-- The loop that cuts a text at its dots; `rest` is the text from `i` on, the fuel its length. -/
def cutLoop : ℕ → Text → List Text
  | 0, _ => []
  | fuel + 1, rest =>
    if rest.isEmpty then []
    else
      match rest.findIdx? (· == '.') with
      | some n => rest.take n :: cutLoop fuel (rest.drop (n + 1))
      | none => cutLoop fuel (rest.drop 1)

/-- `IP_result` -/
def cutAddress (value : Text) : List Text := cutLoop (value.length + 1) (value ++ ['.'])

def isSpace (c : Char) : Bool := c = ' ' || (9 ≤ c.toNat && c.toNat ≤ 13)

/-- The number of the digits at the head of a text, if there are any. -/
def leadingNumber (s : Text) : Option ℤ :=
  let ds := s.takeWhile (·.isDigit)
  if ds.isEmpty then none else some (natValue ds)

/-- The number at the head of a text, behind white space and a sign. -/
def strtol (s : Text) : Option ℤ :=
  match s.dropWhile isSpace with
  | '-' :: cs => (leadingNumber cs).map Int.neg
  | '+' :: cs => leadingNumber cs
  | cs => leadingNumber cs

/-- `atoi`, of a number that fits. -/
def atoi (s : Text) : ℤ := (strtol s).getD 0

/-- `stoi`; `none` is an exception. -/
def stoi (s : Text) : Option ℤ := (strtol s).filter fun n => -2 ^ 31 ≤ n && n < 2 ^ 31

/-- `m_DefaultIP[i]`, and `IP_result[i]`, of a vector that has them. -/
def part (IP_result : List Text) (i : ℕ) : Text := (IP_result[i]?).getD []

/-- `checkDefaultIP`, without the text it leaves, which its caller replaces. -/
def checkDefaultIP (m_DefaultIP : List Text) : Option Bool := do
  let HeadDefaultIPValue ← stoi (part m_DefaultIP 0)
  let endDefaultIPValue ← stoi (part m_DefaultIP 3)
  if HeadDefaultIPValue = 0 || HeadDefaultIPValue = 127
      || (224 ≤ HeadDefaultIPValue && HeadDefaultIPValue ≤ 255) then pure false
  else if endDefaultIPValue = 255 then pure false
  else pure true

/-- `checkDestIP`, without the text it leaves, which its caller replaces. -/
def checkDestIP (m_DestIP : List Text) : Option Bool := do
  let HeadDefaultIPValue ← stoi (part m_DestIP 0)
  let _ ← stoi (part m_DestIP 3)
  if HeadDefaultIPValue = 0 || HeadDefaultIPValue = 127
      || (240 ≤ HeadDefaultIPValue && HeadDefaultIPValue ≤ 255) then pure false
  else pure true

/-! ## The setters -/

/-- An assignment to a byte of `Rest_UCWP_buff`. -/
abbrev Assignment := Fin 1206 × UInt8

/-- The assignments, one after another. -/
def assign (buff : Packet) (writes : List Assignment) : Packet :=
  writes.foldl (fun buff w => Function.update buff w.1 w.2) buff

/-- What a setter does once it may write: its assignments, its answer and `InfoString`. -/
structure Outcome where
  writes : List Assignment
  ok : Bool
  InfoString : String
  deriving DecidableEq

/-- A setter: whether the format of its argument is right, which is tested first, and what it does
after `setLidarParam`; `none` is an exception. -/
structure Setter where
  formatOk : Bool
  body : Packet → String → Option Outcome

/-- `Rest_UCWP_buff[offset] = atoi(IP_result[0].c_str())`, and so on for the next three bytes. -/
def addressBytes (offset : Fin 1206) (IP_result : List Text) : List Assignment :=
  [(offset, UInt8.ofInt (atoi (part IP_result 0))),
    (offset + 1, UInt8.ofInt (atoi (part IP_result 1))),
    (offset + 2, UInt8.ofInt (atoi (part IP_result 2))),
    (offset + 3, UInt8.ofInt (atoi (part IP_result 3)))]

/-- The setters of an address differ in where they write, what they check and what they say. -/
def addressSetter (offset : Fin 1206) (tooShort noLast refused : String)
    (check : List Text → Option Bool) (done : String → String) (value : Text) : Setter where
  formatOk := ipv4.matchesAll value
  body _ InfoString :=
    let IP_result := cutAddress value
    if IP_result.length < 4 then some ⟨[], false, tooShort⟩
    else if IP_result.length = 4 && part IP_result 3 = [] then some ⟨[], false, noLast⟩
    else (check IP_result).map fun ok =>
      if ok then ⟨addressBytes offset IP_result, true, done InfoString⟩ else ⟨[], false, refused⟩

def setLidarIP : Text → Setter :=
  addressSetter 10
    "Please enter the full Lidar IP address!!!Failed to set the Lidar IP address!!!"
    "Please enter the full Lidar IP address!!!Failed to set the Lidar IP address!!!"
    "Failed to set the Lidar IP address!!!" checkDefaultIP fun _ => "Successfully set!"

def setComputerIP : Text → Setter :=
  addressSetter 14
    "Please enter the full Dest IP address!!! Failed to set the Dest(Computer) IP address!!!"
    "Please enter the full Dest IP address!!!Failed to set the Dest(Computer) IP address!!!"
    "Failed to set the computer IP address!!!" checkDestIP fun InfoString => InfoString

def setGatewayIP : Text → Setter :=
  addressSetter 32
    "Please enter the full Gateway IP address!!! Failed to set the Gateway IP address!!!"
    "Please enter the full Gateway IP address!!!Failed to set the Gateway IP address!!!"
    "" (fun _ => some true) fun InfoString => InfoString

def setSubnetMaskIP : Text → Setter :=
  addressSetter 36
    "Please enter the full Subnet Mask IP address!!! Failed to set the  Subnet Mask IP address!!!"
    "Please enter the full  Subnet Mask IP address!!!Failed to set the  Subnet Mask IP address!!!"
    "" (fun _ => some true) fun InfoString => InfoString

/-- `Rest_UCWP_buff[offset] * 256 + Rest_UCWP_buff[offset + 1]` -/
def portAt (buff : Packet) (offset : Fin 1206) : ℤ :=
  (buff offset).toNat * 256 + (buff (offset + 1)).toNat

/-- The setters of a port differ in where they write and where the other port is. -/
def portSetter (offset other : Fin 1206) (port : ℤ) : Setter where
  formatOk := true
  body buff InfoString := some <|
    if port < 1025 || port > 65535 || port = portAt buff other then
      ⟨[], false, "DataPort range 1025-65535 and DataPort and devport cannot be equal, "
        ++ "please check the input parameters"⟩
    else
      ⟨[(offset, UInt8.ofInt (port.tdiv 256)), (offset + 1, UInt8.ofInt (port.tmod 256))], true,
        InfoString⟩

def setDataPort : ℤ → Setter := portSetter 24 26

def setDevPort : ℤ → Setter := portSetter 26 24

/-- The setters of a state differ in where they write and which values they take. -/
def stateSetter (offset : Fin 1206) (values : List ℤ) (refused : String) (value : ℤ) : Setter where
  formatOk := true
  body _ InfoString := some <|
    if value ∈ values then ⟨[(offset, UInt8.ofInt value)], true, InfoString⟩
    else ⟨[], false, refused⟩

/-- `GetLidarData_LS::setLidarRotateSpeed` -/
def setLidarRotateSpeed : ℤ → Setter :=
  stateSetter 100 [0, 1, 2]
    "StateValue can only be equal to 0 or 1 or 2, please check the input parameters"

/-- `GetLidarData_LS::setLidarSoureSelection` -/
def setLidarSoureSelection : ℤ → Setter :=
  stateSetter 44 [0, 1] "StateValue can only be equal to 0 or 1, please check the input parameters"

/-- `GetLidarData_LS::setLidarWorkState` -/
def setLidarWorkState : ℤ → Setter :=
  stateSetter 101 [0, 1] "LidarState can only be equal to 0 or 1, please check the input parameters"

/-- A call of a setter. -/
inductive Setting where
  | lidarIP (LidarIPValue : Text)
  | computerIP (ComputerIPValue : Text)
  | gatewayIP (IPString : Text)
  | subnetMaskIP (IPString : Text)
  | dataPort (DataPort : ℤ)
  | devPort (DevPort : ℤ)
  | rotateSpeed (SpeedValue : ℤ)
  | sourceSelection (StateValue : ℤ)
  | workState (LidarState : ℤ)

def Setting.setter : Setting → Setter
  | .lidarIP value => setLidarIP value
  | .computerIP value => setComputerIP value
  | .gatewayIP value => setGatewayIP value
  | .subnetMaskIP value => setSubnetMaskIP value
  | .dataPort port => setDataPort port
  | .devPort port => setDevPort port
  | .rotateSpeed value => setLidarRotateSpeed value
  | .sourceSelection value => setLidarSoureSelection value
  | .workState value => setLidarWorkState value

/-! ## The copy -/

/-- What `setLidarParam` writes into the copy, the header of a configuration packet last. -/
def paramWrites : List Assignment :=
  [52, 53, 54, 55, 56, 57, 58, 59].map (·, 0x00)
    ++ [160, 161, 162, 163, 164, 165, 166, 167].map (·, 0x00)
    ++ [(0, 0xAA), (1, 0x00), (2, 0xFF), (3, 0x11), (4, 0x22), (5, 0x22), (6, 0xAA), (7, 0xAA)]

/-- `std::to_string` of four bytes with dots between them. -/
def showIP (data : Packet) (offset : Fin 1206) : Text :=
  natDigits (data offset).toNat ++ '.' :: (natDigits (data (offset + 1)).toNat
    ++ '.' :: (natDigits (data (offset + 2)).toNat ++ '.' :: natDigits (data (offset + 3)).toNat))

/-- The members of `LidarStateParam` that are settings. -/
structure LidarStateParam where
  LidarIP : Text
  ComputerIP : Text
  GatewayIP : Text
  SubnetMaskIP : Text
  DataPort : ℤ
  DevPort : ℤ
  Clock_Source : ℕ
  StandbyMode : ℕ
  deriving DecidableEq

/-- `getLidarParamState`, of the packet it copies. -/
def getLidarParamState (pktdata : Packet) : LidarStateParam where
  LidarIP := showIP pktdata 10
  ComputerIP := showIP pktdata 14
  GatewayIP := showIP pktdata 32
  SubnetMaskIP := showIP pktdata 36
  DataPort := portAt pktdata 24
  DevPort := portAt pktdata 26
  Clock_Source := (pktdata 44).toNat
  StandbyMode := (pktdata 101).toNat

/-! ## The session -/

/-- Where the user's thread stands: `copying` has set the flags and waits for the mutex. -/
inductive UserPc where
  | idle
  | copying (setting : Setting) (InfoString : String)

/-- A packet sent to an address, and what `copies`, `copied` and `applied` were then. -/
structure Sent where
  packet : Packet
  ip_data : Text
  copies : ℕ
  copied : ℕ
  settings : List Setting

/-- The members, where the user's thread stands, and histories: the device packets that came, how
often a copy was made, how many packets had come at the last one and what was set since, the packets
sent and the answers. -/
structure Device where
  dataDev : Packet
  ip_sa : Text
  islidarDevCome : Bool
  isSendUDP : Bool
  Rest_UCWP_buff : Packet
  user : UserPc
  arrived : List Packet
  copies : ℕ
  copied : ℕ
  applied : List Setting
  sent : List Sent
  answers : List (Option (Bool × String))

def answer (s : Device) (ok : Bool) (InfoString : String) : Device :=
  { s with answers := s.answers ++ [some (ok, InfoString)] }

/-- After the constructor; the two buffers hold whatever was there. -/
def Device.initial (dataDev Rest_UCWP_buff : Packet) : Device :=
  { dataDev, ip_sa := [], islidarDevCome := false, isSendUDP := true, Rest_UCWP_buff, user := .idle
    arrived := [], copies := 0, copied := 0, applied := [], sent := [], answers := [] }

end GetLidarData
end ShipMotion
