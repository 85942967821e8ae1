import Shortcode.Handler.Run
import Shortcode.Processor
import Shortcode.Session.Basic

/-!
# Running a session

`Session.runAll` carries out the steps of a session one after the other.  A block of steps
under another configuration, and a block in a thread of its own, both leave the
configuration in force as it was before them.
-/

namespace Shortcode

namespace Session

/-! ### Registries and processors -/

/-- The value under a key, or the fault that there is none. -/
def lookup {α : Type} (entries : Entries α) (key : Text) : Except Fault α :=
  match entries.get? key with
  | some value => .ok value
  | none => .error (.missingKey key)

/-- The registry of a number. -/
def registryAt (number : Nat) (session : Session) : Registry Handler :=
  session.registries.getD number .empty

/-- Add a registry, and give its number. -/
def addRegistry (registry : Registry Handler) : Action Session Nat := do
  let session ← get
  set { session with registries := session.registries ++ [registry] }
  return session.registries.length

/-- Give a registry a name. -/
def nameRegistry (name : Text) (number : Nat) : Action Session Unit :=
  modify fun session => { session with registryNames := session.registryNames.put name number }

/-- Work with the registry of a number. -/
def within {α : Type} (number : Nat) (action : Action Workspace α) : Action Session α :=
  .focus
    (fun session =>
      { registry := session.registryAt number, config := session.config, rest := session.trail })
    (fun world session =>
      { session with
        registries := session.registries.set number world.registry
        config := world.config
        trail := world.rest })
    action

/-- Install what a name is to be bound to. -/
def install (binding : Binding Script) : Action Session (Binding Handler) :=
  .focus Session.trail (fun trail session => { session with trail }) (Trail.install binding)

/-- Install what several names are to be bound to. -/
def installAll (bindings : List (Text × Binding Script)) :
    Action Session (List (Text × Binding Handler)) :=
  bindings.mapM fun (name, binding) => do return (name, ← install binding)

/-- Install what a change binds. -/
def installChange : Registry.Change Script → Action Session (Registry.Change Handler)
  | .register name binding => return .register name (← install binding)
  | .registerAll bindings => return .registerAll (← installAll (Entries.ofPairs bindings))
  | .registerUnder names binding => return .registerUnder names (← install binding)
  | .unregister name => return .unregister name
  | .clear => return .clear

/-- Change the registry of a number. -/
def changeRegistry (number : Nat) (change : Registry.Change Script) : Action Session Unit := do
  let change ← installChange change
  within number (Workspace.changeRegistry change)

/-- Make a registry with the given handlers under a name.  If a name cannot be registered, an
earlier registry keeps the name. -/
def createRegistry (name : Text) (bindings : List (Text × Binding Script)) :
    Action Session Unit := do
  let bindings ← installAll (Entries.ofPairs bindings)
  let (outcome, registry) := (Registry.apply (.registerAll bindings)).runOn .empty
  Action.lift outcome
  nameRegistry name (← addRegistry registry)

/-- The built-in shortcodes. -/
def builtins : List (Text × Binding Script) := [(digestTagName, .handler .digest)]

/-- What a change of a registry gives back: the registry, if something was registered. -/
def replyOf {H : Type} : Registry.Change H → Reply
  | .register _ _ => .itself
  | .registerAll _ => .itself
  | .registerUnder _ _ => .itself
  | .unregister _ => .nothing
  | .clear => .nothing

/-! ### Tasks -/

/-- Carry out a task on the registry of a number, which exists. -/
def runOnRegistry (number : Nat) : RegistryTask → Action Session Reply
  | .create _ => return .nothing
  | .createDefaults => return .nothing
  | .change change => do
    changeRegistry number change
    return replyOf change
  | .get name => return .binding (((← get).registryAt number).get? name)
  | .same a b => do
    let registry := (← get).registryAt number
    return .truth (sameBinding (registry.get? a) (registry.get? b))
  | .has name => return .truth (((← get).registryAt number).has name)
  | .size => return .number ((← get).registryAt number).size
  | .isNonempty => return .truth (!((← get).registryAt number).isEmpty)
  | .shown => return .text ((← get).registryAt number).shown
  | .namesIn candidates =>
    return .names (((← get).registryAt number).namesIn (.ofList candidates))
  | .expand text => return .text (← within number (Workspace.expand text))
  | .strip text => return .text (← within number (Workspace.strip text))
  | .hasShortcode text name =>
    return .truth (← within number (Workspace.hasShortcode text name))

/-- Carry out a task on the registry of a name. -/
def runRegistryTask (name : Text) : RegistryTask → Action Session Reply
  | .create bindings => do
    createRegistry name bindings
    return .nothing
  | .createDefaults => do
    createRegistry name builtins
    return .nothing
  | task => do runOnRegistry (← Action.lift (lookup (← get).registryNames name)) task

/-- Make a processor under a name. -/
def createProcessor (name : Text) (registry : Option Text) (config : Config Hook) :
    Action Session Unit := do
  let number ←
    match registry with
    | some registry => Action.lift (lookup (← get).registryNames registry)
    | none => addRegistry .empty
  modify fun session =>
    { session with processors := session.processors.put name { registry := number, config } }

/-- Carry out a task on a processor, which exists. -/
def runOnProcessor (processor : Processor) : ProcessorTask → Action Session Reply
  | .create _ _ => return .nothing
  | .hooks => return .hooks processor.config.setKinds
  | .shares registry => do
    return .truth (processor.registry == (← Action.lift (lookup (← get).registryNames registry)))
  | .change change => do
    changeRegistry processor.registry change
    return .nothing
  | .has name => return .truth (((← get).registryAt processor.registry).has name)
  | .expand text =>
    return .text
      (← within processor.registry
        ((Script.behaviourFor text).expandUnder processor.config text))
  | .strip text =>
    return .text (← within processor.registry (Hook.meaning.stripUnder processor.config text))
  | .hasShortcode text name =>
    return .truth (← within processor.registry (Workspace.hasShortcode text name))
  | .merge defaults attributes shortcode =>
    return .entries
      (← within processor.registry
        (Hook.meaning.mergeUnder processor.config defaults attributes shortcode))
  | .pattern names => do
    let registry := (← get).registryAt processor.registry
    return .text (← Action.lift (registry.pattern (.ofList names)))

/-- Carry out a task on the processor of a name. -/
def runProcessorTask (name : Text) : ProcessorTask → Action Session Reply
  | .create registry config => do
    createProcessor name registry config
    return .nothing
  | task => do runOnProcessor (← Action.lift (lookup (← get).processors name)) task

/-- Merge attributes with defaults under the configuration in force. -/
def mergeHere (defaults : Entries Datum) (attributes : Option Attributes) (shortcode : Text) :
    Action Session (Entries Datum) :=
  .focus
    (fun session => ({ registry := .empty, config := session.config, rest := session.trail } :
      Workspace))
    (fun world session => { session with config := world.config, trail := world.rest })
    (Workspace.merge defaults attributes shortcode)

/-- Carry out a task. -/
def runTask : Task → Action Session Reply
  | .registry name task => runRegistryTask name task
  | .processor name task => runProcessorTask name task
  | .merge defaults attributes shortcode =>
    return .entries (← mergeHere defaults attributes shortcode)
  | .setConfig config => do
    modify fun session => { session with config }
    return .nothing
  | .resetConfig => do
    modify fun session => { session with config := .default }
    return .nothing
  | .hooks => return .hooks (← get).config.setKinds

/-- The names in the registry that a task is about, if there is one. -/
def namesAbout (session : Session) : Task → Option NameSet
  | .registry name _ =>
    (session.registryNames.get? name).map fun number => (session.registryAt number).names
  | .processor name _ =>
    (session.processors.get? name).map fun processor =>
      (session.registryAt processor.registry).names
  | _ => none

/-! ### Steps -/

/-- Carry out a task as a step, recording only the calls that it makes. -/
def answerTask (task : Task) (session : Session) : Answer Reply × Session :=
  let (outcome, session) :=
    (runTask task).runOn { session with trail := session.trail.forgetCalls }
  let answer :=
    { outcome, calls := session.trail.calls.toList, names := session.namesAbout task }
  (answer, session)

/-- The answer to a block of steps that was left in the given state. -/
def blockAnswer (answers : List (Answer Reply)) (fault : Option Fault) (session : Session) :
    Answer Reply :=
  { outcome := .ok (.block answers session.config.setKinds fault), calls := [], names := none }

mutual

/-- Carry out a step. -/
def run : Step → Session → Answer Reply × Session
  | .task task, session => answerTask task session
  | .withConfig config steps fault, session =>
    let (answers, inner) := runAll steps { session with config }
    let after := { inner with config := session.config }
    (blockAnswer answers fault after, after)
  | .thread steps, session =>
    let (answers, inner) := runAll steps { session with config := .default }
    let after := { inner with config := session.config }
    (blockAnswer answers none after, after)

/-- Carry out steps one after the other. -/
def runAll : List Step → Session → List (Answer Reply) × Session
  | [], session => ([], session)
  | step :: steps, session =>
    let (answer, session) := run step session
    let (answers, session) := runAll steps session
    (answer :: answers, session)

end

end Session

/-- The answers to the steps of a session, which starts without registries and processors and
from the default configuration. -/
def runSession (steps : List Step) : List (Answer Reply) := (Session.runAll steps {}).1

end Shortcode
