import A2dpSink.Simulation.Exchange
import A2dpSink.Simulation.Pipe
import A2dpSink.Simulation.Server
import A2dpSink.Sink

/-!
# A network of links

What lies between the library and its devices in a simulation: a connector that opens links, and the
links themselves. Links lead to a scripted peer, to a server at work, or to nobody who says anything.
How long opening and closing take, and whether they succeed, is laid down in advance.
-/

namespace A2dpSink.Simulation

open Sdp

/-- Who runs in a simulation. -/
inductive Agent where
  /-- The caller, who makes one call after the other. -/
  | main
  /-- The loop of the worker pool. -/
  | pump
  /-- Waits in the background until the pool has stopped. -/
  | stopper
  /-- A job of the caller. -/
  | job (n : Nat)
  /-- A job of an attachment. -/
  | attachment (n : Nat) (a : Attachment.Agent)
  /-- A round of the stand-alone discovery session. -/
  | round (n : Nat)
  /-- A job that shows what the stand-alone session has found. -/
  | reporter (n : Nat)
  /-- A discovery server. -/
  | server (n : Nat)
  deriving DecidableEq, Repr

/-! ### Links -/

/-- How opening or closing a link ends. -/
inductive Fate where
  | success
  | failure (e : IoError)
  /-- It never ends. -/
  | hanging
  deriving Repr

/-- What happens to links to a given number, and after how many milliseconds. -/
structure Rule where
  opening : Fate := .success
  openingDelay : Nat := 0
  closing : Fate := .success
  closingDelay : Nat := 0
  deriving Repr

/-- What a link leads to. -/
inductive Wire where
  /-- Nobody who says anything. -/
  | silent
  | scripted (p : Peer)
  /-- A server: what goes up to it and what comes down from it. -/
  | pipes (up down : Pipe Agent)

/-- A link. -/
structure Link where
  psm : Psm
  rule : Rule
  client : Client := {}
  wire : Wire := .silent

/-- How links are opened. -/
inductive Connector where
  /-- By the rules for each number; discovery links lead to peers with a script. -/
  | ruled (script : List Turn) (rules : List (Psm × Rule))
  /-- At once, unless the number is refused or hangs; discovery links lead to servers. -/
  | serving (conduct : Conduct) (refused hanging : List Psm)

/-- A server of the network, and the link it is reached through. -/
structure Station where
  server : Server
  link : LinkId

/-- All links, and what has been asked of the connector. -/
structure Network where
  connector : Connector
  /-- Every link ever opened. -/
  links : List Link := []
  stations : List Station := []
  /-- The numbers that were connected to, the latest one first. -/
  attempts : List Psm := []
  /-- The adapters that were connected from, the latest one first. -/
  adapters : List Address := []
  /-- How many requests the servers have received. -/
  requests : Nat := 0

namespace Network

/-- How something that takes time ends: with a signal, at a given time unless it never ends. -/
structure Course where
  signal : Signal
  time : Option Nat

/-- The course of something that has a fate. -/
def course (now delay : Nat) (fate : Fate) (success : Signal) (failure : IoError → Signal) :
    Course :=
  match fate with
  | .success => ⟨success, some (now + delay)⟩
  | .failure e => ⟨failure e, some (now + delay)⟩
  | .hanging => ⟨success, none⟩

/-- What comes of a call of the connector: the network then, the course of the opening, and whether a
server has started. -/
structure Connection where
  network : Network
  course : Course
  station : Option Nat := none

/-- Starts to open a link. Scripts and rules are those of the moment. -/
def connect (n : Network) (now : Nat) (adapter : Address) (psm : Psm) : Connection :=
  let n := { n with attempts := psm :: n.attempts, adapters := adapter :: n.adapters }
  let id := n.links.length
  match n.connector with
  | .ruled script rules =>
    let rule := (rules.lookup psm).getD {}
    let wire := if psm = Sdp.psm then .scripted (.start script) else .silent
    let course := course now rule.openingDelay rule.opening (.opened (.opened id))
      fun e => .opened (.failed e)
    ⟨{ n with links := n.links ++ [{ psm, rule, wire }] }, course, none⟩
  | .serving conduct refused hanging =>
    if psm ∈ refused then ⟨n, ⟨.opened (.failed ⟨.connectionRefused, none⟩), some now⟩, none⟩
    else if psm ∈ hanging then ⟨n, ⟨.opened .expired, none⟩, none⟩
    else
      let course : Course := ⟨.opened (.opened id), some now⟩
      if psm = Sdp.psm then
        let station := n.stations.length
        let link : Link := { psm, rule := {}, wire := .pipes {} {} }
        ⟨{ n with links := n.links ++ [link], stations := n.stations ++ [⟨{ conduct }, id⟩] },
          course, some station⟩
      else ⟨{ n with links := n.links ++ [{ psm, rule := {} }] }, course, none⟩

/-- Changes a link. -/
def setLink (n : Network) (id : LinkId) (l : Link) : Network := { n with links := n.links.set id l }

/-- Starts to close a link. Those who wait at the other end are called. -/
def shutdown (n : Network) (now : Nat) (id : LinkId) : Network × Course × List Agent :=
  match n.links[id]? with
  | none => (n, ⟨.closed .closed, some now⟩, [])
  | some l =>
    let course := course now l.rule.closingDelay l.rule.closing (.closed .closed)
      fun e => .closed (.failed e)
    match l.wire with
    | .pipes up down =>
      let (up, reader) := up.closeWriter
      let (down, writer) := down.closeReader
      (n.setLink id { l with wire := .pipes up down }, course, reader.toList ++ writer.toList)
    | _ => (n, course, [])

/-! ### Queries -/

/-- How far a query has got: what is left of it or its result, what was reported, and who is called. -/
structure Advance where
  network : Network
  progress : Progress
  requests : List Bytes := []
  calls : List Agent := []
  /-- When the query may go on by itself. -/
  resumesAt : Option Nat := none

/-- How many steps a client or a server can make at most before it has to wait for the other. -/
def stepLimit : Nat := 8 * Pipe.capacity

/-- Lets a client run that talks to a server. Answers the client, the pipes, what has become of the
query, and who is called. -/
def converse (self : Agent) (c : Client) (i : Inquiry) (up down : Pipe Agent)
    (calls : List Agent) : Nat → Client × Progress × Pipe Agent × Pipe Agent × List Agent
  | 0 => (c, .going i, up, down, calls)
  | fuel + 1 =>
    match i.need with
    | .write bytes =>
      match up.write bytes self with
      | .pending up => (c, .going i, up, down, calls)
      | .ready written up call =>
        let reaction := match written with
          | some n => Reaction.wrote n
          | none => .failed ⟨.brokenPipe, none⟩
        go up down (calls ++ call.toList) fuel (i.step c reaction)
    | .flush => go up down calls fuel (i.step c .flushed)
    | .read =>
      match down.read receiveSize self with
      | .pending down => (c, .going i, up, down, calls)
      | .ready bytes down call =>
        go up down (calls ++ call.toList) fuel (i.step c (.received bytes))
where
  /-- Goes on after a step. -/
  go (up down : Pipe Agent) (calls : List Agent) (fuel : Nat) :
      Client × Progress → Client × Progress × Pipe Agent × Pipe Agent × List Agent
    | (c, .going i) => converse self c i up down calls fuel
    | (c, .done r) => (c, .done r, up, down, calls)

/-- Lets a query run on a link as far as it gets. -/
def advance (n : Network) (now : Nat) (self : Agent) (id : LinkId) (i : Inquiry) : Advance :=
  match n.links[id]? with
  | none => ⟨n, .going i, [], [], none⟩
  | some l =>
    match l.wire with
    | .silent => ⟨n, .going i, [], [], none⟩
    | .scripted p =>
      match Exchange.advance ⟨l.client, i, p⟩ now [] with
      | (.waiting x, requests) =>
        ⟨n.setLink id { l with client := x.client, wire := .scripted x.peer }, .going x.inquiry,
          requests.reverse, [], x.resumesAt now⟩
      | (.answered client p r, requests) =>
        ⟨n.setLink id { l with client, wire := .scripted p }, .done r, requests.reverse, [], none⟩
    | .pipes up down =>
      let (client, progress, up, down, calls) := converse self l.client i up down [] stepLimit
      ⟨n.setLink id { l with client, wire := .pipes up down }, progress, [], calls, none⟩

/-- Starts a query on a link. -/
def ask (n : Network) (id : LinkId) (q : Question) : Network × Inquiry :=
  match n.links[id]? with
  | none => (n, (Inquiry.start {} q).2)
  | some l =>
    let (client, i) := Inquiry.start l.client q
    (n.setLink id { l with client }, i)

/-! ### Servers -/

/-- What a server waits for. -/
inductive Idle where
  /-- Its client. -/
  | client
  /-- The end of a pause of so many milliseconds. -/
  | pause (span : Nat)
  /-- Nothing any more. -/
  | over

/-- A server at work between its two pipes. -/
structure Shift where
  server : Server
  up : Pipe Agent
  down : Pipe Agent
  /-- How many requests have come in. -/
  requests : Nat := 0
  calls : List Agent := []

/-- An event happens to the server of a shift. -/
def Shift.step (s : Shift) (e : Server.Event) : Shift :=
  let (server, requests) := s.server.step e
  { s with server, requests := s.requests + requests }

/-- Lets a server run until it has to wait. -/
def Shift.run (self : Agent) (s : Shift) : Nat → Shift × Idle
  | 0 => (s, .client)
  | fuel + 1 =>
    match s.server.need with
    | .nothing => (s, .over)
    | .pause 0 => run self (s.step .rested) fuel
    | .pause span => (s, .pause span)
    | .read most =>
      match s.up.read most self with
      | .pending up => ({ s with up }, .client)
      | .ready bytes up call =>
        run self ({ s with up, calls := s.calls ++ call.toList }.step (.received bytes)) fuel
    | .write bytes =>
      match s.down.write bytes self with
      | .pending down => ({ s with down }, .client)
      | .ready written down call =>
        let event := match written with
          | some n => Server.Event.wrote n
          | none => .failed
        run self ({ s with down, calls := s.calls ++ call.toList }.step event) fuel

/-- Lets the server of a station run, behind a pause if there was one. A server that is over lets go
of its link. -/
def serve (n : Network) (station : Nat) (rested : Bool) : Network × Idle × List Agent :=
  match n.stations[station]? with
  | none => (n, .over, [])
  | some s =>
    match n.links[s.link]? with
    | some l =>
      match l.wire with
      | .pipes up down =>
        let server := if rested then (s.server.step .rested).1 else s.server
        let (shift, idle) := Shift.run (.server station) ⟨server, up, down, 0, []⟩ stepLimit
        let (up, down, left) := match idle with
          | .over =>
            let (up, writer) := shift.up.closeReader
            let (down, reader) := shift.down.closeWriter
            (up, down, writer.toList ++ reader.toList)
          | _ => (shift.up, shift.down, [])
        let n := n.setLink s.link { l with wire := .pipes up down }
        ({ n with stations := n.stations.set station { s with server := shift.server }
                  requests := n.requests + shift.requests }, idle, shift.calls ++ left)
      | _ => (n, .over, [])
    | none => (n, .over, [])

end Network

end A2dpSink.Simulation
