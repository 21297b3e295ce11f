/-!
# Reasons

Why the service should be started, reloaded or stopped. The set is closed: a reason is one of the
plain ones, each known by its name alone, or it carries a subject. A reason decides its category,
the command it implies and its priority.
-/
namespace RestartCoordinator

/-- What a producer asks of the service. -/
inductive Command where
  | start
  | reload
  | stop
deriving DecidableEq, Repr

/-- Coarse grouping of reasons. -/
inductive Category where
  | lifecycle
  | connectivity
  | ruleData
  | operational
deriving DecidableEq, Repr

/-- Only triggers of user priority may extend an open window. -/
inductive Priority where
  | background
  | user
deriving DecidableEq, Repr

namespace Command

def all : List Command := [.start, .reload, .stop]

def name : Command → String
  | .start => "start"
  | .reload => "reload"
  | .stop => "stop"

/-- The name with a capital letter, as descriptions show it. -/
def title : Command → String
  | .start => "Start"
  | .reload => "Reload"
  | .stop => "Stop"

/-- The command of several requests together: a stop beats a start, a start a reload. -/
def join : Command → Command → Command
  | .stop, _ => .stop
  | _, .stop => .stop
  | .start, _ => .start
  | _, .start => .start
  | .reload, .reload => .reload

end Command

namespace Category

def all : List Category := [.lifecycle, .connectivity, .ruleData, .operational]

def name : Category → String
  | .lifecycle => "lifecycle"
  | .connectivity => "connectivity"
  | .ruleData => "rule_data"
  | .operational => "operational"

end Category

namespace Priority

def all : List Priority := [.background, .user]

def name : Priority → String
  | .background => "background"
  | .user => "user"

/-- User priority is above background priority. -/
def rank : Priority → Nat
  | .background => 0
  | .user => 1

instance : Ord Priority := ⟨fun a b => compare a.rank b.rank⟩

end Priority

/-- The reasons that carry nothing, grouped by category. -/
inductive PlainReason where
  | ui
  | prepared
  | receiver
  | callState
  | foreground
  | background
  | interactiveStateChanged
  | linkPropertiesChanged
  | dataConnectionStateChanged
  | connectivityChanged
  | connectedStateChanged
  | unmeteredStateChanged
  | generationChanged
  | idleStateChanged
  | networkAvailable
  | networkLost
  | hostsFileDownload
  | packageAdded
  | packageDeleted
  | permissionGranted
  | hostsImport
  | changedNotify
  | changedFilter
  | allowHost
  | blockHost
  | resetHost
  | ruleChanged
  | dataImport
  | tile
  | widget
  | notification
  | lockdown
  | pull
  | forwarding
  | dnsCleanup
  | dnsClear
  | switchOff
deriving DecidableEq, Repr

namespace PlainReason

/-- Every plain reason, in the order of their declaration. -/
def all : List PlainReason :=
  [.ui, .prepared, .receiver, .callState, .foreground, .background, .interactiveStateChanged,
    .linkPropertiesChanged, .dataConnectionStateChanged, .connectivityChanged,
    .connectedStateChanged, .unmeteredStateChanged, .generationChanged, .idleStateChanged,
    .networkAvailable, .networkLost, .hostsFileDownload, .packageAdded, .packageDeleted,
    .permissionGranted, .hostsImport, .changedNotify, .changedFilter, .allowHost, .blockHost,
    .resetHost, .ruleChanged, .dataImport, .tile, .widget, .notification, .lockdown, .pull,
    .forwarding, .dnsCleanup, .dnsClear, .switchOff]

/-- The name by which a reason is written and read. -/
def name : PlainReason → String
  | .ui => "ui"
  | .prepared => "prepared"
  | .receiver => "receiver"
  | .callState => "call_state"
  | .foreground => "foreground"
  | .background => "background"
  | .interactiveStateChanged => "interactive_state_changed"
  | .linkPropertiesChanged => "link_properties_changed"
  | .dataConnectionStateChanged => "data_connection_state_changed"
  | .connectivityChanged => "connectivity_changed"
  | .connectedStateChanged => "connected_state_changed"
  | .unmeteredStateChanged => "unmetered_state_changed"
  | .generationChanged => "generation_changed"
  | .idleStateChanged => "idle_state_changed"
  | .networkAvailable => "network_available"
  | .networkLost => "network_lost"
  | .hostsFileDownload => "hosts_file_download"
  | .packageAdded => "package_added"
  | .packageDeleted => "package_deleted"
  | .permissionGranted => "permission_granted"
  | .hostsImport => "hosts_import"
  | .changedNotify => "changed_notify"
  | .changedFilter => "changed_filter"
  | .allowHost => "allow_host"
  | .blockHost => "block_host"
  | .resetHost => "reset_host"
  | .ruleChanged => "rule_changed"
  | .dataImport => "import"
  | .tile => "tile"
  | .widget => "widget"
  | .notification => "notification"
  | .lockdown => "lockdown"
  | .pull => "pull"
  | .forwarding => "forwarding"
  | .dnsCleanup => "dns_cleanup"
  | .dnsClear => "dns_clear"
  | .switchOff => "switch_off"

/-- The words shown to people: those of the name, but for three abbreviations. -/
def label : PlainReason → String
  | .ui => "UI"
  | .dnsCleanup => "DNS cleanup"
  | .dnsClear => "DNS cleared"
  | r => String.ofList (r.name.toList.map fun c => if c = '_' then ' ' else c)

/-- The name in capitalised words without spaces. -/
def title : PlainReason → String
  | .ui => "UI"
  | r => String.ofList (capitalise true r.name.toList)
where
  capitalise : Bool → List Char → List Char
    | _, [] => []
    | start, c :: rest =>
      if c = '_' then capitalise true rest
      else (if start then c.toUpper else c) :: capitalise false rest

def category : PlainReason → Category
  | .ui | .prepared | .receiver | .callState | .foreground | .background => .lifecycle
  | .interactiveStateChanged | .linkPropertiesChanged | .dataConnectionStateChanged
  | .connectivityChanged | .connectedStateChanged | .unmeteredStateChanged | .generationChanged
  | .idleStateChanged | .networkAvailable | .networkLost => .connectivity
  | .hostsFileDownload | .packageAdded | .packageDeleted | .permissionGranted | .hostsImport
  | .changedNotify | .changedFilter | .allowHost | .blockHost | .resetHost | .ruleChanged
  | .dataImport => .ruleData
  | .tile | .widget | .notification | .lockdown | .pull | .forwarding | .dnsCleanup | .dnsClear
  | .switchOff => .operational

/-- The command that a reason implies. -/
def command : PlainReason → Command
  | .switchOff | .dataImport => .stop
  | .ui | .prepared | .receiver => .start
  | _ => .reload

def priority : PlainReason → Priority
  | .ui | .tile | .widget | .notification | .pull => .user
  | _ => .background

theorem mem_all (r : PlainReason) : r ∈ all := by
  cases r <;> decide

end PlainReason

/-- Why a start, reload or stop is wanted. -/
inductive Reason where
  | plain (reason : PlainReason)
  /-- A setting changed; the subject names it. -/
  | changed (subject : String)
  /-- A shortcut of a package was launched. -/
  | launchShortcut (package : String)
deriving DecidableEq, Repr

instance : Coe PlainReason Reason := ⟨.plain⟩

namespace Reason

/-- The name, without the subject. -/
def name : Reason → String
  | .plain r => r.name
  | .changed _ => "changed"
  | .launchShortcut _ => "launch_shortcut"

/-- The words shown to people, with the subject. -/
def describe : Reason → String
  | .plain r => r.label
  | .changed subject => "changed " ++ subject
  | .launchShortcut package => "shortcut launch " ++ package

def category : Reason → Category
  | .plain r => r.category
  | _ => .operational

/-- The command of a trigger that names none. -/
def command : Reason → Command
  | .plain r => r.command
  | _ => .reload

def priority : Reason → Priority
  | .plain r => r.priority
  | .changed _ => .background
  | .launchShortcut _ => .user

/-- Descriptions in order, separated by commas. -/
def describeAll (rs : List Reason) : String :=
  String.intercalate ", " (rs.map describe)

/-- The reasons without repetitions; the first occurrence of each stays in its place. -/
def distinct (rs : List Reason) : List Reason :=
  rs.foldl (fun seen r => if r ∈ seen then seen else seen ++ [r]) []

end Reason
end RestartCoordinator
