import AllSquare.Client.Dedup
import AllSquare.Client.Journal

/-! # A session with the device

The device as its protocol documents it, a client, and the two channels between
them. The device keeps the club data of its last shot, at first whatever it kept
from before the session. On a shot it sends the ball frame twice in a row; when
it processes a request for club metrics it sends the club frame of its last shot
twice in a row; and between these pairs it may send any other frames.

Both channels are first in, first out and lose nothing. The client's commands
are `client.written`, of which the device has processed the first `served`; the
frames on their way to the client are `inbox`. Device shots, device processing,
other device frames and polls interleave freely, and a frame may take as many
polls to arrive as it likes.
-/

namespace AllSquare

/-- A frame that reads as a ball. -/
structure BallFrame (ft : Features) where
  payload : Payload
  ball : BallMetrics
  parses : parse ft payload.bytes = .ok (.ball ball)

/-- A frame that reads as a club. -/
structure ClubFrame (ft : Features) where
  payload : Payload
  club : ClubMetrics
  parses : parse ft payload.bytes = .ok (.club club)

/-- A non-empty frame that reads as neither, or does not parse. -/
structure OtherFrame (ft : Features) where
  payload : Payload
  ne_nil : payload.bytes ≠ []
  not_ball : ∀ b, parse ft payload.bytes ≠ .ok (.ball b)
  not_club : ∀ m, parse ft payload.bytes ≠ .ok (.club m)

/-- A shot of the session. -/
structure SessionShot (ft : Features) where
  ball : BallFrame ft
  club : ClubFrame ft

/-- A frame on its way to the client. The index of a ball or club frame says
which shot it is of, 0 being the time before the session; the client does not
see it. -/
inductive Flight (ft : Features) where
  | ball (i : ℕ) (f : BallFrame ft)
  | club (i : ℕ) (f : ClubFrame ft)
  | other (f : OtherFrame ft)

def Flight.payload {ft : Features} : Flight ft → Payload
  | .ball _ f => f.payload
  | .club _ f => f.payload
  | .other f => f.payload

structure Session (ft : Features) where
  client : Client
  /-- The shots so far, in order; shot `i` is at position `i - 1`. -/
  shots : List (SessionShot ft)
  /-- The club data kept from before the session. -/
  stale : ClubFrame ft
  /-- How many of the client's commands the device has processed. -/
  served : ℕ
  inbox : List (Flight ft)

inductive SessionStep (ft : Features) where
  | shot (s : SessionShot ft)
  /-- The device processes the next command. -/
  | serve
  | emit (f : OtherFrame ft)
  /-- The client polls; the next frame on its way has `arrived` by then, or not. -/
  | poll (arrived : Bool) (clock : Clock) (characteristic : Uuid → IoResult (List UInt8))
    (hint : Option Text)

namespace Session

variable {ft : Features}

/-- A new client, a device that keeps `stale`, and empty channels. -/
def init (now : ℕ) (stale : ClubFrame ft) : Session ft := ⟨.new now, [], stale, 0, []⟩

/-- The club data the device keeps. -/
def lastClub (s : Session ft) : ClubFrame ft :=
  match s.shots.getLast? with
  | none => s.stale
  | some shot => shot.club

/-- The commands on their way to the device. -/
def commandsInFlight (s : Session ft) : List Write := s.client.written.drop s.served

/-- The environment of a poll: every write is taken, and the read gives the
next frame of the inbox if it has arrived. -/
def env (s : Session ft) (arrived : Bool) (clock : Clock)
    (characteristic : Uuid → IoResult (List UInt8)) (hint : Option Text) : PollEnv where
  clock := clock
  read :=
    match arrived, s.inbox with
    | true, f :: _ => .ok f.payload
    | _, _ => .error .wouldBlock
  write := fun _ => .ok ()
  readCharacteristic := characteristic
  modelHint := hint

/-- The frames the device sends for a command. -/
def answer (s : Session ft) (w : Write) : List (Flight ft) :=
  if w.IsRequest then
    [.club s.shots.length s.lastClub, .club s.shots.length s.lastClub]
  else []

def step (ft : Features) (s : Session ft) : SessionStep ft → Session ft × Option Reply
  | .shot shot =>
    ({ s with
      shots := s.shots ++ [shot]
      inbox := s.inbox ++
        [.ball (s.shots.length + 1) shot.ball, .ball (s.shots.length + 1) shot.ball] }, none)
  | .serve =>
    match s.commandsInFlight with
    | [] => (s, none)
    | w :: _ => ({ s with served := s.served + 1, inbox := s.inbox ++ s.answer w }, none)
  | .emit f => ({ s with inbox := s.inbox ++ [.other f] }, none)
  | .poll arrived clock characteristic hint =>
    let (c, r) := (Client.poll ft (s.env arrived clock characteristic hint)).exec s.client
    let inbox := if arrived ∧ s.client.Reads then s.inbox.tail else s.inbox
    ({ s with client := c, inbox := inbox }, some r)

def machine (ft : Features) : Reactive.Machine (Session ft) (SessionStep ft) (Option Reply) where
  step := step ft

end Session

end AllSquare
