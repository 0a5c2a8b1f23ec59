import ChatChannel.Error
import ChatChannel.Text.Blank

/-!
# ChatChannel.Address

Addresses of accounts, devices and chats: `user@server`, or `user[.agent]:device@server` for one
device of an account. `text` prints an address and `parse` reads one.
-/

namespace ChatChannel

/-- The address of an account or chat. Agent and device are zero for the account as a whole. -/
structure Address where
  user : String
  agent : UInt8
  device : UInt16
  server : String
  deriving DecidableEq, Repr

/-- What keeps a text from being an address, in the order in which it is looked for. -/
inductive AddressFault where
  | empty
  | noAt
  | manyAts
  | emptyServer
  | device
  | agent
  deriving DecidableEq, Repr

/-- The text of a fault. -/
def AddressFault.reason : AddressFault → String
  | .empty => "empty address"
  | .noAt => "missing '@'"
  | .manyAts => "more than one '@'"
  | .emptyServer => "empty server"
  | .device => "device is not a number"
  | .agent => "agent is not a number"

namespace Address

open Text

/-- Server of group chats. -/
def groupServer : String := "g.us"

/-- Server of broadcast lists. -/
def broadcastServer : String := "broadcast"

/-- The address of an account or chat as a whole. -/
def ofAccount (user server : String) : Address :=
  { user, agent := 0, device := 0, server }

/-- The address is a broadcast list. -/
def isBroadcast (a : Address) : Bool :=
  a.server = broadcastServer

/-- The address is a group chat. -/
def isGroup (a : Address) : Bool :=
  a.server = groupServer

/-- The address of the account, without agent and device. -/
def account (a : Address) : Address :=
  ofAccount a.user a.server

/-- The agent is printed only if it is not zero, and the device only if it or the agent is not. -/
def text (a : Address) : String :=
  let agent := if a.agent = 0 then "" else "." ++ toString a.agent.toNat
  let device := if a.agent = 0 && a.device = 0 then "" else ":" ++ toString a.device.toNat
  a.user ++ agent ++ device ++ "@" ++ a.server

/-- The digits of a decimal, with one plus sign before them at most. -/
def decimalDigits : List Char → List Char
  | '+' :: rest => rest
  | cs => cs

/-- The number that a decimal denotes, if it is below `bound`. -/
def decimal? (bound : Nat) (cs : List Char) : Option Nat :=
  let digits := decimalDigits cs
  if digits = [] || !digits.all Char.isDigit then none
  else
    let n := digits.foldl (fun n c => 10 * n + (c.toNat - '0'.toNat)) 0
    if n < bound then some n else none

/-- Reads the part before the at-sign. The device follows the last colon; the agent follows the
first dot before it, and a text without a colon has neither. -/
def parseUser (user : List Char) (server : String) : Except AddressFault Address :=
  match cutLast ':' user with
  | none => .ok (ofAccount (String.ofList user) server)
  | some (name, device) =>
    match decimal? UInt16.size device with
    | none => .error .device
    | some d =>
      match cutFirst '.' name with
      | none =>
        .ok { user := String.ofList name, agent := 0, device := UInt16.ofNat d, server }
      | some (name, agent) =>
        match decimal? UInt8.size agent with
        | none => .error .agent
        | some a =>
          .ok { user := String.ofList name, agent := UInt8.ofNat a, device := UInt16.ofNat d,
                server }

/-- Reads an address without blanks around it. -/
def parseChars (cs : List Char) : Except AddressFault Address :=
  if cs = [] then .error .empty
  else
    match pieces '@' cs with
    | [user, server] =>
      if server = [] then .error .emptyServer else parseUser user (String.ofList server)
    | _ :: _ :: _ :: _ => .error .manyAts
    | _ => .error .noAt

/-- Reads an address; blanks around it do not count. -/
def parse (s : String) : Except AddressFault Address :=
  parseChars (trimChars s.toList)

/-- Reads an address as the destination of a message. -/
def parseTarget (s : String) : Except ChannelError Address :=
  match parse s with
  | .ok a => .ok a
  | .error fault => .error (.invalidAddress s fault.reason)

end Address

end ChatChannel
