import LiveFlags.Source.Delivery

/-!
# Flags for tests

`TestFlags` holds definitions of flags that a test sets by hand. It builds sources, each of which
begins with a snapshot of the definitions; from then on each change of a definition is pushed to all
active sources, so that several clients see the same sequence of updates. A source is active from
its start to its disposal.

A definition gives every identity its value at one version. Changing it through the flag raises the
version by one; an item that is set as it is brings its own version.
-/

namespace LiveFlags

/-- A flag as a test defines it. -/
structure TestFlag where
  key : String
  value : Json := .bool true
  /-- Values for the identities with these keys. -/
  overrides : Std.ExtTreeMap String Json := ∅
  variation : Option Nat := none
  trackEvents : Bool := false

namespace TestFlag

def withValue (f : TestFlag) (value : Json) : TestFlag :=
  { f with value }

/-- Gives the identities with a key their own value. -/
def withValueFor (f : TestFlag) (identityKey : String) (value : Json) : TestFlag :=
  { f with overrides := f.overrides.insert identityKey value }

/-- The item that an identity sees. -/
def itemFor (f : TestFlag) (identity : Identity) (version : Nat) : Item :=
  { key := f.key, version, value := (f.overrides[identity.key]?).getD f.value
    variation := f.variation, trackEvents := f.trackEvents }

end TestFlag

/-- What is served for a key. -/
inductive TestDefinition where
  | flag (flag : TestFlag) (version : Nat)
  /-- The same item for every identity. -/
  | item (item : Item)

namespace TestDefinition

def version : TestDefinition → Nat
  | .flag _ version => version
  | .item i => i.version

def itemFor (identity : Identity) : TestDefinition → Item
  | .flag f version => f.itemFor identity version
  | .item i => i

end TestDefinition

/-- A source of flags for tests. -/
structure TestSource where
  context : SourceContext
  initialized : Bool := false
  disposed : Bool := false

/-- Whether changes are pushed to the source. -/
def TestSource.isActive (s : TestSource) : Bool :=
  s.initialized && !s.disposed

/-- The definitions, and the sources that are alive, by their names. -/
structure TestFlags (ι : Type) where
  definitions : Std.ExtTreeMap String TestDefinition := ∅
  sources : List (ι × TestSource) := []

namespace TestFlags

variable {ι : Type} [DecidableEq ι]

/-- The definition of a flag to begin with: the current one, or a flag that is on. -/
def flag (t : TestFlags ι) (key : String) : TestFlag :=
  match t.definitions[key]? with
  | some (.flag flag _) => flag
  | _ => { key }

/-- The version of the next change of a key. -/
def nextVersion (t : TestFlags ι) (key : String) : Nat :=
  (t.definitions[key]?.map (·.version + 1)).getD 1

/-- What an identity sees. -/
def snapshotFor (t : TestFlags ι) (identity : Identity) : Snapshot :=
  .ofItems (t.definitions.toList.map fun entry => entry.2.itemFor identity)

/-- Puts a definition in place. -/
def define (t : TestFlags ι) (key : String) (definition : TestDefinition) : TestFlags ι :=
  { t with definitions := t.definitions.insert key definition }

/-- The same delivery from each active source, as far as its context does not tell them apart. -/
def push (t : TestFlags ι) (delivery : SourceContext → Delivery) : List (ι × Delivery) :=
  (t.sources.filter (·.2.isActive)).map fun (name, source) => (name, delivery source.context)

/-! ### Changes -/

/-- Puts a flag in place at its next version. -/
def update (t : TestFlags ι) (flag : TestFlag) : List (ι × Delivery) × TestFlags ι :=
  let version := t.nextVersion flag.key
  let t := t.define flag.key (.flag flag version)
  (t.push fun c => .item c.identity (flag.itemFor c.identity version), t)

/-- Gives a flag another value. -/
def setValue (t : TestFlags ι) (key : String) (value : Json) : List (ι × Delivery) × TestFlags ι :=
  t.update ((t.flag key).withValue value)

/-- Pushes an item as it is; it is put in place only if it is newer than the definition. -/
def upsert (t : TestFlags ι) (item : Item) : List (ι × Delivery) × TestFlags ι :=
  let isNewer := t.definitions[item.key]?.all (·.version < item.version)
  let t := if isNewer then t.define item.key (.item item) else t
  (t.push fun c => .item c.identity item, t)

/-- Deletes a flag at its next version. -/
def delete (t : TestFlags ι) (key : String) : List (ι × Delivery) × TestFlags ι :=
  t.upsert (.tombstone key (t.nextVersion key))

/-- Takes a snapshot in place of all definitions. -/
def init (t : TestFlags ι) (snapshot : Snapshot) : List (ι × Delivery) × TestFlags ι :=
  let t := { t with definitions := snapshot.items.map fun _ item => .item item }
  (t.push fun c => .snapshot c.identity (t.snapshotFor c.identity), t)

/-- Every active source reports a state. -/
def report (t : TestFlags ι) (state : ConnectionState) (error : Option SourceError) :
    List (ι × Delivery) :=
  t.push fun _ => .status (some state) error

/-- Every active source stops for good. -/
def fail (t : TestFlags ι) (error : SourceError) : List (ι × Delivery) :=
  t.push fun _ => .failure error

/-! ### Sources -/

/-- Builds a source. -/
def build (t : TestFlags ι) (name : ι) (context : SourceContext) : TestFlags ι :=
  { t with sources := t.sources ++ [(name, { context })] }

/-- Changes the source with a name. -/
def modify (t : TestFlags ι) (name : ι) (f : TestSource → TestSource) : TestFlags ι :=
  { t with sources := t.sources.map fun (n, s) => (n, if n = name then f s else s) }

/-- Starts a source and tells whether it could be started; the first start delivers what its
identity sees. -/
def start (t : TestFlags ι) (name : ι) : Bool × List Delivery × TestFlags ι :=
  match t.sources.lookup name with
  | none => (false, [], t)
  | some source =>
    if source.disposed then (false, [], t)
    else if source.initialized then (true, [], t)
    else
      let identity := source.context.identity
      (true, [.snapshot identity (t.snapshotFor identity), .valid],
        t.modify name fun s => { s with initialized := true })

def dispose (t : TestFlags ι) (name : ι) : TestFlags ι :=
  t.modify name fun s => { s with disposed := true }

/-- Forgets a source that nobody holds any more. -/
def release (t : TestFlags ι) (name : ι) : TestFlags ι :=
  { t with sources := t.sources.filter (·.1 ≠ name) }

/-- The number of sources that are alive and not disposed. -/
def sourceCount (t : TestFlags ι) : Nat :=
  (t.sources.filter (!·.2.disposed)).length

end TestFlags

end LiveFlags
