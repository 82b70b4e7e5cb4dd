import Libiphone.Basic

/-!
# The key/value output of iphoneinfo

`iphoneinfo` (`iphoneinfo.c`) asks lockdownd for a value and prints it (lines 145-168 of
`main`).  A non-empty dict goes, in the default key/value format, through
`plist_children_to_string` (lines 270-291), which walks its entries with libplist's dict
iterator and prints each key; a node handed to `plist_node_to_string` (lines 211-268) is printed
by its type, a dict or an array through `plist_children_to_string` again.

libplist is not among the sources.  A `Plist` is a node of its trees, and a `PlistLib` is what
the tool uses of the library: what the dict iterator hands out for a node before the NULL value
that ends the loop, and the XML text of a node.  For a dict the iterator hands out its entries,
in order; `plist_dict_get_size` is the number of entries.

The loop clears `subnode` (line 281) before it passes it to `plist_node_to_string` (line 286),
which returns at once on NULL.  So what is printed for a dict is its keys, each followed by
`": "`, and nothing of any value: `plistChildrenToString_dict` and `queryOutput_dict`.

The command line (lines 71-120), the device and lockdownd set-up and the clean-up, which choose
`format` and `key` and print nothing of the answer, are the subject of `Libiphone.Iphoneinfo.Main`.
-/

namespace Libiphone.Iphoneinfo

/-- A node of a libplist tree, by its `plist_type`. -/
inductive Plist
  | boolean (b : Bool)
  | uint (u : UInt64)
  /-- A real, by the text `printf("%f")` prints for it. -/
  | real (printed : String)
  | string (s : String)
  | key (s : String)
  | data (bytes : List UInt8)
  | date (sec usec : Int)
  | array (items : List Plist)
  | dict (entries : List (String × Plist))
  deriving Repr

/-- What iphoneinfo uses of libplist. -/
structure PlistLib where
  /-- The keys and values `plist_dict_next_item` hands out for `node`, one per call, before the
  call that hands out a NULL value. -/
  items : Plist → List (String × Plist)
  /-- A dict's iterator hands out its entries, in order. -/
  items_dict : ∀ entries, items (.dict entries) = entries
  /-- The text `plist_to_xml` writes for a node. -/
  toXml : Plist → String

/-- `FORMAT_KEY_VALUE`, the default. -/
def formatKeyValue : Nat := 1

/-- `FORMAT_XML`, chosen by `-x`. -/
def formatXml : Nat := 2

variable (L : PlistLib)

mutual

/-- `plist_node_to_string(node)` (lines 211-268): what it prints for `node`, NULL printing
nothing. -/
def plistNodeToString : Option Plist → String
  | none => ""
  | some (.boolean b) => (if b then "true" else "false") ++ "\n"
  | some (.uint u) => toString u.toNat ++ "\n"
  | some (.real printed) => printed ++ "\n"
  | some (.string s) => s ++ "\n"
  | some (.key s) => s ++ ": "
  | some (.data _) => "\n"
  | some (.date _ _) => "\n"
  | some (.array items) => "\n" ++ plistChildrenToString (.array items)
  | some (.dict entries) => "\n" ++ plistChildrenToString (.dict entries)
termination_by node => if node.isSome then 2 else 0

/-- `plist_children_to_string(node)` (lines 270-291): each key the dict iterator hands out,
followed by `": "` and by `plist_node_to_string(subnode)`, `subnode` being set to NULL just
before (line 281). -/
def plistChildrenToString (node : Plist) : String :=
  String.join ((L.items node).map fun item => item.1 ++ ": " ++ plistNodeToString none)
termination_by 1

end

/-- Lines 145-168 of `main`: what the tool prints for the answer of `lockdownd_get_value`,
`none` when the call failed and else the node it returned, NULL or not.  A non-empty dict is
printed as XML with `-x` and key by key otherwise; any other node only when a key was asked
for. -/
def queryOutput (format : Nat) (key : Option String) (answer : Option (Option Plist)) : String :=
  match answer with
  | none => ""
  | some (some (.dict entries)) =>
    if entries.length ≠ 0 then
      if format = formatXml then L.toXml (.dict entries)
      else plistChildrenToString L (.dict entries)
    else ""
  | some node => if node.isSome ∧ key.isSome then plistNodeToString L node else ""

@[simp] theorem plistNodeToString_none : plistNodeToString L none = "" := by
  rw [plistNodeToString]

/-- Whatever the node, `plist_children_to_string` prints the keys the iterator hands out and no
value. -/
theorem plistChildrenToString_eq (node : Plist) :
    plistChildrenToString L node = String.join ((L.items node).map (·.1 ++ ": ")) := by
  rw [plistChildrenToString]
  simp only [plistNodeToString_none, String.append_empty]

/-- A dict, nested to any depth, is printed as its keys in order, each followed by `": "`. -/
theorem plistChildrenToString_dict (entries : List (String × Plist)) :
    plistChildrenToString L (.dict entries) = String.join (entries.map (·.1 ++ ": ")) := by
  rw [plistChildrenToString_eq, L.items_dict]

/-- A dict or array value handed to `plist_node_to_string` is a newline and the keys of its
iterator. -/
theorem plistNodeToString_dict (entries : List (String × Plist)) :
    plistNodeToString L (some (.dict entries)) =
      "\n" ++ String.join (entries.map (·.1 ++ ": ")) := by
  rw [plistNodeToString, plistChildrenToString_dict]

theorem plistNodeToString_array (items : List Plist) :
    plistNodeToString L (some (.array items)) =
      "\n" ++ String.join ((L.items (.array items)).map (·.1 ++ ": ")) := by
  rw [plistNodeToString, plistChildrenToString_eq]

/-- In the key/value format the tool prints, for a non-empty dict, its keys and nothing else;
so two dicts with the same keys in the same order print the same text. -/
theorem queryOutput_dict {format : Nat} (key : Option String) {entries : List (String × Plist)}
    (hne : entries ≠ []) (hfmt : format ≠ formatXml) :
    queryOutput L format key (some (some (.dict entries))) =
      String.join (entries.map (·.1 ++ ": ")) := by
  rw [queryOutput, if_pos (by simpa using hne), if_neg hfmt, plistChildrenToString_dict]

/-- The dict `{A = "x"}` prints as `A: `: its one scalar leaf is not printed. -/
theorem queryOutput_drops_values (key : Option String) :
    queryOutput L formatKeyValue key (some (some (.dict [("A", .string "x")]))) = "A: " ∧
      'x' ∉ (queryOutput L formatKeyValue key (some (some (.dict [("A", .string "x")])))).toList := by
  rw [queryOutput_dict L key (List.cons_ne_nil _ _) (by decide)]
  decide

end Libiphone.Iphoneinfo
