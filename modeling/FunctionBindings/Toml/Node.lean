import FunctionBindings.Toml.Basic

/-!
# Tables under construction

The lines of a document fill a tree of tables. A dotted key makes tables that only dotted keys of
the same section extend; a header makes the tables on its way, which later headers may extend, and
defines the table at its end, which must not have been defined before. A header in double brackets
appends a table to a series, and later headers extend the last table of a series. `Node.members`
turns the tree into values.
-/

namespace FunctionBindings.Toml

/-- How a table came into being. -/
inductive Origin where
  /-- By a dotted key. -/
  | dotted
  /-- On the way of a longer header. -/
  | implied
  /-- By its own header. -/
  | header
  deriving DecidableEq, Repr

/-- A value, a table, or a series of tables. -/
inductive Node where
  | leaf (value : Toml)
  | table (origin : Origin) (members : List (String × Node))
  | series (tables : List (List (String × Node)))
  deriving Inhabited

/-- The members of a table under construction. -/
abbrev Nodes := List (String × Node)

namespace Node

/-- Add a value under a dotted key; the tables on its way are made by dotted keys. -/
def enter (value : Toml) : List String → Nodes → Except Fault Nodes
  | [], nodes => .ok nodes
  | [key], nodes =>
      match Entries.get? key nodes with
      | none => .ok (nodes ++ [(key, .leaf value)])
      | some _ => .error (.duplicateKey key)
  | key :: path, nodes =>
      match Entries.get? key nodes with
      | none => (enter value path []).map fun inner ↦ nodes ++ [(key, .table .dotted inner)]
      | some (.table .dotted inner) =>
          (enter value path inner).map fun inner ↦ Entries.set key (.table .dotted inner) nodes
      | some _ => .error (.notTable key)

/-- Add the members of a section to the members that longer headers implied. -/
def join (own : Nodes) (nodes : Nodes) : Except Fault Nodes :=
  match own.find? fun member ↦ member.1 ∈ Entries.keys nodes with
  | some member => .error (.duplicateKey member.1)
  | none => .ok (nodes ++ own)

/-- Put a section's members in the place that its header names: as a table of its own, or as the
next table of a series. -/
def place (isSeries : Bool) (own : Nodes) : List String → Nodes → Except Fault Nodes
  | [], nodes => join own nodes
  | [key], nodes =>
      match Entries.get? key nodes, isSeries with
      | none, true => .ok (nodes ++ [(key, .series [own])])
      | none, false => .ok (nodes ++ [(key, .table .header own)])
      | some (.series tables), true => .ok (Entries.set key (.series (tables ++ [own])) nodes)
      | some (.table .implied inner), false =>
          (join own inner).map fun inner ↦ Entries.set key (.table .header inner) nodes
      | some _, _ => .error (.duplicateKey key)
  | key :: path, nodes =>
      match Entries.get? key nodes with
      | none => (place isSeries own path []).map fun inner ↦
          nodes ++ [(key, .table .implied inner)]
      | some (.table .dotted _) => .error (.duplicateKey key)
      | some (.table origin inner) => (place isSeries own path inner).map fun inner ↦
          Entries.set key (.table origin inner) nodes
      | some (.series tables) => (place isSeries own path (tables.getLast?.getD [])).map fun last ↦
          Entries.set key (.series (tables.dropLast ++ [last])) nodes
      | some (.leaf _) => .error (.notTable key)

mutual

/-- The value that a node stands for. -/
def toToml : Node → Toml
  | .leaf value => value
  | .table _ nodes => .table (members nodes)
  | .series tables => .array (seriesItems tables)
termination_by structural node => node

/-- The members that the members of a table under construction stand for. -/
def members : List (String × Node) → List (String × Toml)
  | [] => []
  | (key, node) :: rest => (key, toToml node) :: members rest
termination_by structural nodes => nodes

/-- The tables of a series. -/
def seriesItems : List (List (String × Node)) → List Toml
  | [] => []
  | nodes :: rest => .table (members nodes) :: seriesItems rest
termination_by structural tables => tables

end

end Node

end FunctionBindings.Toml
