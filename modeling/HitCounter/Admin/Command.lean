import HitCounter.Site.Basic

/-!
# Commands for the administration

A command as words: its name, the values it needs in their order, and for a new site any of three
switches. Words that start with a hyphen are switches unless they stand after `--`, and a single
hyphen is a value. Words are read from the left, and the first one that decides stands: a switch
that asks for help, a word that is wrong in its place, or the end.
-/

namespace HitCounter.Admin

/-- A command. -/
inductive Command where
  | addSite (host : String) (collect : Collect)
  | ignore (host ip : String)
  | unignore (host ip : String)
  | collect (host : String) (field : CollectField) (on : Bool)
  | list
  | stats (host : String)
deriving DecidableEq, Repr

/-- Words that are no command. -/
inductive UsageFault where
  /-- The words ask for help. -/
  | help
  | invalid
deriving DecidableEq, Repr

/-- What the words after the name of a command hold. -/
structure Words where
  values : List String := []
  switches : List String := []
deriving DecidableEq, Repr

/-- The toggle with a name. -/
def field? (word : String) : Option CollectField :=
  if word = "location" then some .location
  else if word = "region" then some .region
  else if word = "language" then some .language
  else none

/-- The position of a toggle with a name. -/
def state? (word : String) : Option Bool :=
  if word = "on" then some true else if word = "off" then some false else none

/-- What may stand for a value of a command. -/
inductive Place where
  | anything
  | field
  | state
deriving DecidableEq, Repr

/-- The word is a value for the place. -/
def Place.admits : Place → String → Bool
  | .anything, _ => true
  | .field, word => (field? word).isSome
  | .state, word => (state? word).isSome

/-- The switches of a new site. -/
def siteSwitches : List String := ["--no-location", "--no-region", "--no-language"]

/-- The words are a switch. -/
def isSwitch (word : String) : Bool := word.toList.head? == some '-' && word != "-"

/-- The switch asks for help: by its long name, or by its letter, behind which anything may
stand. -/
def asksForHelp (word : String) : Bool :=
  word = "--help" || word.toList.take 2 = ['-', 'h']

/-- Sorts words into values and switches, of which `allowed` are known; the command takes values
for `places`. A switch may stand once. -/
def sortWords (allowed : List String) : (places : List Place) → (plain : Bool) → Words →
    List String → Except UsageFault Words
  | [], _, w, [] => .ok w
  | _ :: _, _, _, [] => .error .invalid
  | places, plain, w, word :: more =>
    if !plain && word = "--" then sortWords allowed places true w more
    else if !plain && isSwitch word then
      if asksForHelp word then .error .help
      else if allowed.contains word && !w.switches.contains word then
        sortWords allowed places plain { w with switches := word :: w.switches } more
      else .error .invalid
    else match places with
      | [] => .error .invalid
      | place :: places =>
        if place.admits word then
          sortWords allowed places plain { w with values := w.values ++ [word] } more
        else .error .invalid

/-- What a new site keeps about visitors. Without locations it keeps no subdivisions either. -/
def collectOf (switches : List String) : Collect where
  location := !switches.contains "--no-location"
  region := !switches.contains "--no-location" && !switches.contains "--no-region"
  language := !switches.contains "--no-language"

/-- The values of a command without switches. -/
def valuesOf (places : List Place) (words : List String) : Except UsageFault (List String) :=
  (sortWords [] places false {} words).map (·.values)

/-- The names of the commands. -/
def names : List String := ["add-site", "ignore-ip", "unignore-ip", "collect", "list", "stats"]

/-- The command with a name and further words. -/
def Command.named (name : String) (words : List String) : Except UsageFault Command := do
  if name = "add-site" then
    let w ← sortWords siteSwitches [.anything] false {} words
    match w.values with
    | [host] => return .addSite host (collectOf w.switches)
    | _ => throw .invalid
  else if name = "ignore-ip" then
    match ← valuesOf [.anything, .anything] words with
    | [host, ip] => return .ignore host ip
    | _ => throw .invalid
  else if name = "unignore-ip" then
    match ← valuesOf [.anything, .anything] words with
    | [host, ip] => return .unignore host ip
    | _ => throw .invalid
  else if name = "collect" then
    match ← valuesOf [.anything, .field, .state] words with
    | [host, field, state] =>
      match field? field, state? state with
      | some field, some on => return .collect host field on
      | _, _ => throw .invalid
    | _ => throw .invalid
  else if name = "list" then
    discard (valuesOf [] words)
    return .list
  else if name = "stats" then
    match ← valuesOf [.anything] words with
    | [host] => return .stats host
    | _ => throw .invalid
  else throw .invalid

/-- What `help` is asked about: nothing, or one command, of which `help` is one itself. Switches
have no meaning here. -/
def helpTopic : List String → UsageFault
  | [] => .help
  | [name] => if name = "help" ∨ name ∈ names then .help else .invalid
  | _ => .invalid

/-- The command that words make up. -/
def Command.ofWords : List String → Except UsageFault Command
  | [] => .error .invalid
  | name :: words =>
    if asksForHelp name then .error .help
    else if name = "help" then .error (helpTopic words)
    else Command.named name words

end HitCounter.Admin
