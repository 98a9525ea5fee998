import AllSquare.Client.Tracker
import AllSquare.Frp.Steps

/-! # The bridge

The program that connects a device to a controller: a loop that polls the
client, hands every event to the Flight Relay adapter, and while there is none
looks after the controller's connection and commands. `iterate` is one turn of
the loop; a turn that ends the program leaves `running` false.

What the transport, the connection and the clock say during a turn is the turn's
environment. A turn writes no command twice apart from those of its poll, whose
answers are the poll's.
-/

namespace AllSquare

/-! ## Clubs and hands -/

/-- The club a command-line argument names; the driver when it names none. -/
def clubFromArg (arg : Option Text) : Club :=
  match String.ofList (arg.getD "driver".toList) with
  | "7i" => .iron7
  | "3w" => .wood3
  | "3h" => .hybrid3
  | "5h" => .hybrid5
  | "4i" => .iron4
  | "5i" => .iron5
  | "6i" => .iron6
  | "8i" => .iron8
  | "9i" => .iron9
  | "pw" => .pitchingWedge
  | "gw" => .gapWedge
  | "sw" => .sandWedge
  | "lw" => .lobWedge
  | "putter" => .putter
  | "pt" => .putter
  | _ => .driver

/-- The device's club for a protocol club, if the device has a code for it. -/
def clubFromFrp : FrpClub → Option Club
  | .driver => some .driver
  | .wood3 => some .wood3
  | .wood5 => some .wood5
  | .wood7 => some .wood7
  | .hybrid3 => some .hybrid3
  | .hybrid4 => some .hybrid4
  | .hybrid5 => some .hybrid5
  | .iron3 => some .iron3
  | .iron4 => some .iron4
  | .iron5 => some .iron5
  | .iron6 => some .iron6
  | .iron7 => some .iron7
  | .iron8 => some .iron8
  | .iron9 => some .iron9
  | .pitchingWedge => some .pitchingWedge
  | .gapWedge => some .gapWedge
  | .sandWedge => some .sandWedge
  | .lobWedge => some .lobWedge
  | .putter => some .putter
  | .other _ => none

def handedFromFrp : Handedness → Handed
  | .right => .right
  | .left => .left

/-! ## State -/

structure Bridge where
  client : Client
  frp : FrpDevice
  /-- The club in play. -/
  club : Club
  armed : Bool
  running : Bool

/-- What a turn of the loop is told. -/
structure TurnEnv where
  poll : PollEnv
  /-- The transport's answers to the commands of the loop itself. -/
  write : Command → IoResult Unit
  frp : FrpEnv
  /-- Whether a connection has been established. -/
  incoming : Bool
  /-- What the controller's connection has. -/
  recv : Except FrpError (Option FrpMessage)

namespace Bridge

/-- The program once it has connected to the device. -/
def start (now : ℕ) (env : FrpEnv) (deviceName : Text) (arg : Option Text) : Bridge where
  client := .new now
  frp := (FrpDevice.spawn env).setDeviceName deviceName
  club := clubFromArg arg
  armed := false
  running := true

/-! ## One turn -/

/-- Apply a controller's club and hand to the device. -/
def applyControllerCommand (ft : Features) (b : Bridge) (env : TurnEnv) (cmd : ControllerCommand) :
    Bridge :=
  let client :=
    match cmd.handed with
    | some handed => b.client.setHanded (handedFromFrp handed)
    | none => b.client
  let club := (cmd.club.bind clubFromFrp).getD b.club
  -- an armed device is told at once; otherwise the club waits for arming
  if b.armed && (cmd.club.isSome || cmd.handed.isSome) then
    { b with client := (ClientOp.exec ft client (.selectClub env.write club)).1, club := club }
  else { b with client := client, club := club }

/-- The device has been identified: report it and arm the club in play. -/
def connected (ft : Features) (b : Bridge) (env : TurnEnv) (firmware : Firmware) (model : Text) :
    Bridge :=
  let frp := (b.frp.setFirmware firmware.lm).setModel model
  let frp := ((FrpDevice.sendDeviceInfo env.frp).exec frp).1
  match ClientOp.exec ft b.client (.arm env.write b.club .advanced) with
  | (client, .ok _) => { b with client := client, frp := frp, armed := true }
  -- arming fails: the program ends
  | (client, .error _) => { b with client := client, frp := frp, running := false }

/-- Pass an event to the adapter. -/
def forward (ft : Features) (b : Bridge) (env : TurnEnv) (event : Event) : Bridge :=
  { b with frp := ((FrpDevice.handleEvent ft env.frp event).exec b.frp).1 }

/-- Handle an event of the client. -/
def handle (ft : Features) (b : Bridge) (env : TurnEnv) (event : Event) : Bridge :=
  match event with
  | .connected firmware _ _ model =>
    let b := b.connected ft env firmware model
    if b.running then b.forward ft env event else b
  | _ => b.forward ft env event

/-- Look after the controller while the device has nothing to say. -/
def attend (ft : Features) (b : Bridge) (env : TurnEnv) : Bridge :=
  let frp := ((FrpDevice.pollConnection env.frp env.incoming).exec b.frp).1
  match (FrpDevice.checkController env.frp env.recv).exec frp with
  | (frp, .ok (some cmd)) => { b with frp := frp }.applyControllerCommand ft env cmd
  | (frp, _) => { b with frp := frp }

/-- One turn of the loop. -/
def iterate (ft : Features) (b : Bridge) (env : TurnEnv) : Bridge :=
  if b.running then
    match (Client.poll ft env.poll).exec b.client with
    | (client, .ok (some event)) => { b with client := client }.handle ft env event
    | (client, .ok none) => { b with client := client }.attend ft env
    | (client, .error _) => { b with client := client, running := false }
  else b

/-- The loop as a machine. -/
def machine (ft : Features) : Reactive.Machine Bridge TurnEnv Unit where
  step := fun b env => (b.iterate ft env, ())

/-- The notification a turn accepts. -/
def accepts (ft : Features) (b : Bridge) (env : TurnEnv) : Option Notification :=
  if b.running then b.client.accepts ft env.poll else none

end Bridge

end AllSquare
