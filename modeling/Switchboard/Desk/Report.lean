import Switchboard.Desk.Basic
import Switchboard.Wire.Report

/-!
# Reports on the desk

What a report of the server does to the desk. A report about a host or a terminal that is not there,
or that is there already, does nothing.
-/

namespace Switchboard.Desk

open Wire

def hostConnected (info : HostInfo) : Step := fun d =>
  match d.roster.addHost info with
  | (false, _) => (d, [])
  | (true, roster) =>
    let becameCurrent := roster.current ≠ d.roster.current
    { d with roster }.perform
      ([tellOf .hostAdded info.id] ++
        (if becameCurrent then [publishHost .server] else []) ++
        (if d.settings.autoOpen ∧ roster.hosts.length = 1 then [requestTerminal info.id] else []))

/-- Lets go of a host and of its terminals. The view leaves them before their sessions end. -/
def hostDisconnected (host : HostId) : Step := fun d =>
  match d.roster.removeHost host with
  | (none, _) => (d, [])
  | (some removed, roster) =>
    { d with roster }.perform
      ([refreshView .server] ++
        removed.host.terminals.flatMap (fun t =>
          [ask (.closeTerminal t), forget t, publish .server (.terminalClosed host t)]) ++
        [tell (.hostRemoved host)] ++
        (if removed.wasCurrent then [publishHost .server] else []))

/-- Takes in a terminal. One beyond the cap of its host is closed at once. -/
def terminalAdded (host : HostId) (t : TerminalId) : Step := fun d =>
  if d.sessions.contains t then (d, [])
  else
    match d.roster.attach host t with
    | (.attached _ requested selected, roster) =>
      { d with roster, sessions := d.sessions.create t host }.perform
        ([publish .server (.terminalAdded host t), showSlots host] ++
          (if requested ∨ roster.current ≠ d.roster.current then [publishHost .server] else []) ++
          (if selected then [refreshView .server] else []))
    | (.atCapacity, _) => d.perform [ask (.closeTerminal t)]
    | (.unknownHost, _) | (.duplicate, _) => (d, [])

/-- Keeps output, and passes it on if the terminal is presented. -/
def terminalOutput (t : TerminalId) (output : Bytes) : Step := fun d =>
  if d.sessions.contains t then
    ({ d with sessions := d.sessions.append t output },
      if d.presented = some t then [.cue (.output t output)] else [])
  else (d, [])

def terminalClosed (t : TerminalId) : Step := fun d =>
  match d.roster.locate? t with
  | some (host, slot) => closeSlot .server host slot d
  | none => forget t d

def directoryListing (t : TerminalId) (path : String) (files : List ListedFile) : Step := fun d =>
  let sessions := d.sessions.list t path files
  ({ d with sessions }, ((sessions.get? t).map fun s => Effect.cue (.entries s)).toList)

/-- What a report does. The owner of a closed terminal is looked up here, whatever host is named. -/
def handleReport : Report → Step
  | .hostConnected info => hostConnected info
  | .hostDisconnected host => hostDisconnected host
  | .terminalAdded host t => terminalAdded host t
  | .terminalOutput t output => terminalOutput t output.bytes
  | .terminalClosed _ t => terminalClosed t
  | .directoryListing t path files => directoryListing t path files

end Switchboard.Desk
