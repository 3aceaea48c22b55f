import BootEnv.Host.Fault

/-!
# Diagnostic events

What a survey of the host has to say. An event is a fact; its level, its target and its text are
functions of it.

* `Event.level`: how grave it is. A fallback to an empty answer is a warning.
* `Event.target`: which part reports it.
* `Event.text`: the text shown.
-/

namespace BootEnv

/-- Levels of events, the gravest first. -/
inductive Level where
  | error
  | warn
  | info
  | debug
  | trace
  deriving Repr, DecidableEq

namespace Level

/-- Zero for the gravest level, four for the least grave. -/
def rank : Level → Nat
  | error => 0
  | warn => 1
  | info => 2
  | debug => 3
  | trace => 4

/-- The name of a level. -/
def name : Level → String
  | error => "ERROR"
  | warn => "WARN"
  | info => "INFO"
  | debug => "DEBUG"
  | trace => "TRACE"

end Level

/-- A fact found while the host is surveyed. -/
inductive Event where
  /-- A row of the route table with too few columns. -/
  | shortRouteLine (line : Nat)
  /-- A row of the route table with a column that is no number. -/
  | malformedRouteLine (line : Nat)
  /-- The routes could not be read. -/
  | routesUnreadable (fault : Fault)
  /-- The interface of the default route. -/
  | defaultRouteVia (interface : String)
  /-- A default route that names no interface. -/
  | defaultRouteWithoutInterface
  /-- No default route at all. -/
  | noDefaultRoute
  /-- The interfaces could not be listed. -/
  | interfacesUnreadable (fault : Fault)
  /-- There are interfaces to look at. -/
  | surveyStarted
  /-- An address that could not be read. -/
  | addressUnreadable (address interface : String)
  /-- An address that became a token's value. -/
  | addressFound (interface value : String)
  deriving Repr, DecidableEq

namespace Event

/-- How grave an event is. -/
def level : Event → Level
  | shortRouteLine _ => .debug
  | malformedRouteLine _ => .debug
  | routesUnreadable _ => .warn
  | defaultRouteVia _ => .debug
  | defaultRouteWithoutInterface => .warn
  | noDefaultRoute => .warn
  | interfacesUnreadable _ => .warn
  | surveyStarted => .info
  | addressUnreadable .. => .warn
  | addressFound .. => .info

/-- The part that reports an event, as log filters name it. -/
def target : Event → String
  | shortRouteLine _ => "cloudinit_env::network::route"
  | malformedRouteLine _ => "cloudinit_env::network::route"
  | routesUnreadable _ => "cloudinit_env::network"
  | defaultRouteVia _ => "cloudinit_env::network"
  | defaultRouteWithoutInterface => "cloudinit_env::network"
  | noDefaultRoute => "cloudinit_env::network"
  | interfacesUnreadable _ => "cloudinit_env::network"
  | surveyStarted => "cloudinit_env::environment"
  | addressUnreadable .. => "cloudinit_env::environment"
  | addressFound .. => "cloudinit_env::environment"

/-- The text of an event. -/
def text : Event → String
  | shortRouteLine n =>
    "route table line " ++ toString n ++ ": expected at least 8 columns, skipping"
  | malformedRouteLine n =>
    "route table line " ++ toString n ++ ": malformed hex field, skipping"
  | routesUnreadable f => "unable to read routing table: " ++ f.text
  | defaultRouteVia name => "default route via " ++ name
  | defaultRouteWithoutInterface => "found default route but could not determine interface"
  | noDefaultRoute => "unable to find default route"
  | interfacesUnreadable f => "unable to enumerate network interfaces: " ++ f.text
  | surveyStarted => "fetching network interfaces info"
  | addressUnreadable address name =>
    "cannot parse '" ++ address ++ "' CIDR on interface " ++ name ++ ", skipping"
  | addressFound name value =>
    "found '" ++ name ++ "' network interface with '" ++ value ++ "' IP address"

end Event

end BootEnv
