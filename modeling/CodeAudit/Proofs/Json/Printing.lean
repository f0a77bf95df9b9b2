import CodeAudit.Proofs.Json.Numerals

/-!
# The tree of a printed value

What a value is printed as spells a tree of the same shape: a list has a node for each item, and an
object one for each member, with its key.  `Stands` relates a node to the value it was printed from;
only the places in the text are left open.

The text, its lexemes and its tree are followed together, by induction on the value.  At each step
the fuel of the tree reader is twice the number of lexemes, one for the value and one for the list or
the object around it.

**Results.**
* `readNode_list`, `readNode_object`: reading lexemes into nodes.
* `written_prettyAt`: a printed value at any level of indentation.
* `document_pretty`: the document that a printed value spells.
-/

namespace CodeAudit
namespace Json

namespace Value

mutual

/-- The values within a value that hold no other value. -/
def leaves : Value → List Value
  | .list items => itemLeaves items
  | .object members => memberLeaves members
  | value => [value]

@[inherit_doc leaves]
def itemLeaves : List Value → List Value
  | [] => []
  | item :: rest => leaves item ++ itemLeaves rest

@[inherit_doc leaves]
def memberLeaves : List (String × Value) → List Value
  | [] => []
  | (_, value) :: rest => leaves value ++ memberLeaves rest

end

/-- A value without others in it whose text is read back: a number only if the library does so. -/
def Printable : Value → Prop
  | .integer n => 0 ≤ n ∧ n < 2 ^ 64
  | .real x => ReadsBack x
  | .single _ => False
  | _ => True

end Value

/-- A node has the form and the contents of a value, wherever it stands in a text. -/
inductive Stands : Node → Value → Prop
  | null
      {start stop : Nat} :
      Stands (.null start stop) .null
  | truth
      {value : Bool}
      {start stop : Nat} :
      Stands (.truth value start stop) (.truth value)
  | integer
      {numeral : Numeral}
      {n : Int}
      {start stop : Nat}
      (hvalue : numeral.value = .integer n) :
      Stands (.number numeral start stop) (.integer n)
  | real
      {numeral : Numeral}
      {x : Floating}
      {start stop : Nat}
      (hread : Reader.real (.number numeral start stop) = .ok (.real x)) :
      Stands (.number numeral start stop) (.real x)
  | text
      {content : String}
      {start stop : Nat} :
      Stands (.text (.ok content) start stop) (.text content)
  | list
      {nodes : List Node}
      {items : List Value}
      {start stop : Nat}
      (hitems : List.Forall₂ Stands nodes items) :
      Stands (.list start nodes (.closed stop)) (.list items)
  | object
      {members : List (Key × Node)}
      {fields : List (String × Value)}
      {start stop : Nat}
      (hkeys : members.map (fun member => member.1.text) = fields.map fun field => .ok field.1)
      (hvalues : List.Forall₂ Stands (members.map Prod.snd) (fields.map Prod.snd)) :
      Stands (.object start members (.closed stop)) (.object fields)

section Nodes

/-- Lexemes with which no list ends. -/
def Opens (lexed : List Lexeme) : Prop :=
  ∃ first rest, lexed = first :: rest ∧ first.token ≠ .closeList

/-- Lexemes that are read as one node, whatever follows them. -/
def Parses
    (lexed : List Lexeme)
    (node : Node) : Prop :=
  Opens lexed ∧
    ∀ size fuel rest, 2 * lexed.length ≤ fuel + 1 →
      readNode size fuel (lexed ++ rest) = (node, rest)

/-- Lexemes that are read as the items of a list. -/
def ParsesItems
    (lexed : List Lexeme)
    (nodes : List Node) : Prop :=
  Opens lexed ∧
    ∀ size fuel start stop rest, 2 * lexed.length < fuel →
      readItems size fuel (lexed ++ ⟨.closeList, start, stop⟩ :: rest) =
        (nodes, .closed stop, rest)

/-- Lexemes that are read as the members of an object; the first one is a key. -/
def ParsesMembers
    (lexed : List Lexeme)
    (members : List (Key × Node)) : Prop :=
  (∃ content start stop rest, lexed = ⟨.text content, start, stop⟩ :: rest) ∧
    ∀ size fuel start stop rest, 2 * lexed.length < fuel →
      readMembers size fuel (lexed ++ ⟨.closeObject, start, stop⟩ :: rest) =
        (members, .closed stop, rest)

variable {lexed later : List Lexeme} {node : Node} {nodes : List Node}
variable {members : List (Key × Node)} {content : Except Fault String}
variable {start stop next place first last : Nat}

theorem Opens.append
    (hopens : Opens lexed)
    (later : List Lexeme) :
    Opens (lexed ++ later) := by
  obtain ⟨first, rest, rfl, hfirst⟩ := hopens
  exact ⟨first, rest ++ later, rfl, hfirst⟩

/-- There is a lexeme to read, so there is fuel for the first step. -/
theorem Parses.of_step
    (hopens : Opens lexed)
    (hread : ∀ size fuel rest, 2 * lexed.length ≤ fuel + 2 →
      readNode size (fuel + 1) (lexed ++ rest) = (node, rest)) :
    Parses lexed node := by
  refine ⟨hopens, ?_⟩
  intro size fuel rest hfuel
  cases fuel with
  | zero =>
      obtain ⟨first, more, rfl, -⟩ := hopens
      rw [List.length_cons] at hfuel
      omega
  | succ fuel =>
      exact hread size fuel rest hfuel

/-- A lexeme that is a node of its own. -/
theorem parses_single
    {token : Token}
    (htoken : token ≠ .closeList)
    (hread : ∀ size fuel rest, readNode size (fuel + 1) (⟨token, start, stop⟩ :: rest) = (node, rest)) :
    Parses [⟨token, start, stop⟩] node :=
  Parses.of_step ⟨_, [], rfl, htoken⟩ fun size fuel rest _ => hread size fuel rest

theorem parsesItems_last
    (hnode : Parses lexed node) :
    ParsesItems lexed [node] := by
  refine ⟨hnode.1, ?_⟩
  intro size fuel start stop rest hfuel
  cases fuel with
  | zero =>
      simp at hfuel
  | succ fuel =>
      rw [readItems, hnode.2 size fuel _ (by omega)]

theorem parsesItems_cons
    (hnode : Parses lexed node)
    (hnodes : ParsesItems later nodes) :
    ParsesItems (lexed ++ ⟨.comma, first, last⟩ :: later) (node :: nodes) := by
  refine ⟨hnode.1.append _, ?_⟩
  intro size fuel start stop rest hfuel
  rw [List.length_append, List.length_cons] at hfuel
  cases fuel with
  | zero =>
      simp at hfuel
  | succ fuel =>
      have hitems := hnodes.2 size fuel start stop rest (by omega)
      obtain ⟨⟨token, place, end'⟩, more, rfl, hopens⟩ := hnodes.1
      rw [List.append_assoc, readItems, hnode.2 size fuel _ (by omega)]
      rw [List.cons_append] at hitems ⊢
      cases token with
      | closeList =>
          exact absurd rfl hopens
      | _ =>
          simp only [List.cons_append, hitems]

theorem parsesMembers_last
    (hnode : Parses lexed node) :
    ParsesMembers (⟨.text content, start, stop⟩ :: ⟨.colon, next, place⟩ :: lexed)
      [(⟨content, next⟩, node)] := by
  refine ⟨⟨_, _, _, _, rfl⟩, ?_⟩
  intro size fuel start stop rest hfuel
  cases fuel with
  | zero =>
      simp at hfuel
  | succ fuel =>
      simp only [List.length_cons] at hfuel
      rw [List.cons_append, List.cons_append, readMembers]
      simp only [hnode.2 size fuel _ (show 2 * lexed.length ≤ fuel + 1 by omega)]

theorem parsesMembers_cons
    (hnode : Parses lexed node)
    (hmembers : ParsesMembers later members) :
    ParsesMembers
      (⟨.text content, start, stop⟩ :: ⟨.colon, next, place⟩ ::
        (lexed ++ ⟨.comma, first, last⟩ :: later))
      ((⟨content, next⟩, node) :: members) := by
  refine ⟨⟨_, _, _, _, rfl⟩, ?_⟩
  intro size fuel start stop rest hfuel
  simp only [List.length_cons, List.length_append] at hfuel
  cases fuel with
  | zero =>
      simp at hfuel
  | succ fuel =>
      have hrest := hmembers.2 size fuel start stop rest (by omega)
      obtain ⟨key, place, end', more, rfl⟩ := hmembers.1
      rw [List.cons_append, List.cons_append, List.append_assoc, readMembers]
      simp only [hnode.2 size fuel _ (show 2 * lexed.length ≤ fuel + 1 by omega)]
      rw [List.cons_append] at hrest ⊢
      simp only [List.cons_append, hrest]

theorem parses_list
    (hnodes : ParsesItems lexed nodes) :
    Parses (⟨.openList, start, next⟩ :: (lexed ++ [⟨.closeList, place, stop⟩]))
      (.list start nodes (.closed stop)) := by
  refine Parses.of_step ⟨_, _, rfl, by simp⟩ ?_
  intro size fuel rest hfuel
  simp only [List.length_cons, List.length_append, List.length_nil] at hfuel
  have hitems := hnodes.2 size fuel place stop rest (by omega)
  obtain ⟨⟨token, begin, end'⟩, more, rfl, hopens⟩ := hnodes.1
  rw [List.cons_append, List.append_assoc, List.singleton_append, List.cons_append]
  rw [List.cons_append] at hitems
  cases token with
  | closeList =>
      exact absurd rfl hopens
  | _ =>
      simp only [readNode, hitems]

theorem parses_object
    (hmembers : ParsesMembers lexed members) :
    Parses (⟨.openObject, start, next⟩ :: (lexed ++ [⟨.closeObject, place, stop⟩]))
      (.object start members (.closed stop)) := by
  refine Parses.of_step ⟨_, _, rfl, by simp⟩ ?_
  intro size fuel rest hfuel
  simp only [List.length_cons, List.length_append, List.length_nil] at hfuel
  have hread := hmembers.2 size fuel place stop rest (by omega)
  obtain ⟨key, begin, end', more, rfl⟩ := hmembers.1
  rw [List.cons_append, List.append_assoc, List.singleton_append, List.cons_append]
  rw [List.cons_append] at hread
  simp only [readNode, hread]

theorem parses_emptyList :
    Parses [⟨.openList, start, next⟩, ⟨.closeList, place, stop⟩]
      (.list start [] (.closed stop)) :=
  Parses.of_step ⟨_, _, rfl, by simp⟩ fun _ _ _ _ => rfl

theorem parses_emptyObject :
    Parses [⟨.openObject, start, next⟩, ⟨.closeObject, place, stop⟩]
      (.object start [] (.closed stop)) :=
  Parses.of_step ⟨_, _, rfl, by simp⟩ fun _ _ _ _ => rfl

end Nodes

section Texts

/-- A text that spells a value, wherever it stands. -/
def Written
    (text : List Char)
    (value : Value) : Prop :=
  ∀ place, ∃ lexed stop node,
    Spelled place text lexed stop ∧ Parses lexed node ∧ Stands node value

/-- A text that spells the items of a list. -/
def WrittenItems
    (text : List Char)
    (items : List Value) : Prop :=
  ∀ place, ∃ lexed stop nodes,
    Spelled place text lexed stop ∧ ParsesItems lexed nodes ∧ List.Forall₂ Stands nodes items

/-- A text that spells the members of an object. -/
def WrittenMembers
    (text : List Char)
    (fields : List (String × Value)) : Prop :=
  ∀ place, ∃ lexed stop members,
    Spelled place text lexed stop ∧ ParsesMembers lexed members ∧
      members.map (fun member => member.1.text) = fields.map (fun field => .ok field.1) ∧
      List.Forall₂ Stands (members.map Prod.snd) (fields.map Prod.snd)

variable {text later : List Char} {value : Value} {items : List Value}
variable {fields : List (String × Value)}

theorem clear_cons
    {c : Char}
    (hc : continuesNumeral c = false)
    (rest : List Char) :
    ∀ more, Clear more → Clear (c :: rest ++ more) := by
  intro more _ d hd
  obtain rfl : c = d := by simpa using hd
  exact hc

theorem Written.indented
    (hwritten : Written text value)
    (n : Nat) :
    Written (List.replicate n ' ' ++ text) value := by
  intro place
  obtain ⟨lexed, stop, node, hspelled, hparses⟩ := hwritten (place + n)
  exact ⟨lexed, stop, node, hspelled.spaces n, hparses⟩

/-- A value that is one token. -/
theorem written_token
    {place : Nat}
    {token : Token}
    {node : Node}
    {start stop finish : Nat}
    (hspelled : Spelled place text [⟨token, start, stop⟩] finish)
    (htoken : token ≠ .closeList)
    (hread : ∀ size fuel rest,
      readNode size (fuel + 1) (⟨token, start, stop⟩ :: rest) = (node, rest))
    (hstands : Stands node value) :
    ∃ lexed stop node, Spelled place text lexed stop ∧ Parses lexed node ∧ Stands node value :=
  ⟨_, finish, node, hspelled, parses_single htoken hread, hstands⟩

theorem written_scalarText
    (hprintable : value.Printable)
    (hlist : ∀ items, value ≠ .list items)
    (hobject : ∀ members, value ≠ .object members) :
    Written value.scalarText.toList value := by
  intro place
  cases value with
  | null =>
      exact written_token (spelled_null place) (by simp) (fun _ _ _ => rfl) .null
  | truth value =>
      cases value with
      | true =>
          exact written_token (spelled_true place) (by simp) (fun _ _ _ => rfl) .truth
      | false =>
          exact written_token (spelled_false place) (by simp) (fun _ _ _ => rfl) .truth
  | integer n =>
      obtain ⟨hnonneg, hlt⟩ := hprintable
      obtain ⟨k, rfl⟩ := Int.eq_ofNat_of_zero_le hnonneg
      obtain ⟨numeral, stop, hvalue, hspelled⟩ :=
        spelled_count (show k < 2 ^ 64 by omega) place
      have htext : (Value.integer k).scalarText = digitText k := by
        simp [Value.scalarText]
      rw [htext]
      exact written_token hspelled (by simp) (fun _ _ _ => rfl) (.integer hvalue)
  | real x =>
      obtain ⟨numeral, hread, hplaces⟩ := exists_spelled_of_readsBack hprintable
      obtain ⟨start, stop, finish, hspelled⟩ := hplaces place
      exact written_token hspelled (by simp) (fun _ _ _ => rfl) (.real (hread start stop))
  | single x =>
      exact hprintable.elim
  | text content =>
      obtain ⟨stop, hspelled⟩ := spelled_quoted content place
      exact written_token hspelled (by simp) (fun _ _ _ => rfl) .text
  | list items =>
      exact absurd rfl (hlist items)
  | object members =>
      exact absurd rfl (hobject members)

theorem written_emptyList :
    Written "[]".toList (.list []) := by
  intro place
  have hspelled := (spelled_openList place).append (spelled_closeList (place + 1))
    (clear_cons (by decide) [])
  exact ⟨_, _, _, hspelled, parses_emptyList, .list .nil⟩

theorem written_emptyObject :
    Written "\x7b\x7d".toList (.object []) := by
  intro place
  have hspelled := (spelled_openObject place).append (spelled_closeObject (place + 1))
    (clear_cons (by decide) [])
  exact ⟨_, _, _, hspelled, parses_emptyObject, .object rfl .nil⟩

/-- What stands between two brackets, on lines of its own. -/
theorem spelled_between
    {place stop : Nat}
    {opening closing : Char}
    {first last : Token}
    {lexed : List Lexeme}
    (hopening : Spelled place [opening] [⟨first, place, place + 1⟩] (place + 1))
    (htext : Spelled (place + 2) text lexed stop)
    (n : Nat)
    (hclosing : ∀ place, Spelled place [closing] [⟨last, place, place + 1⟩] (place + 1)) :
    Spelled place (opening :: '\n' :: (text ++ '\n' :: (List.replicate n ' ' ++ [closing])))
      (⟨first, place, place + 1⟩ :: (lexed ++ [⟨last, stop + 1 + n, stop + 1 + n + 1⟩]))
      (stop + 1 + n + 1) := by
  have hend := Spelled.space (c := '\n') (by decide) ((hclosing (stop + 1 + n)).spaces n)
  have hbody := Spelled.space (c := '\n') (by decide)
    (htext.append hend (clear_cons (by decide) _))
  exact hopening.append hbody (clear_cons (by decide) _)

theorem Written.items_last
    (hvalue : Written text value) :
    WrittenItems text [value] := by
  intro place
  obtain ⟨lexed, stop, node, hspelled, hparses, hstands⟩ := hvalue place
  exact ⟨lexed, stop, [node], hspelled, parsesItems_last hparses, .cons hstands .nil⟩

theorem Written.items_cons
    (hvalue : Written text value)
    (hitems : WrittenItems later items) :
    WrittenItems (text ++ ',' :: '\n' :: later) (value :: items) := by
  intro place
  obtain ⟨lexed, stop, node, hspelled, hparses, hstands⟩ := hvalue place
  obtain ⟨lexed', stop', nodes, hspelled', hparses', hstands'⟩ := hitems (stop + 2)
  have hrest := (spelled_comma stop).append
    (Spelled.space (c := '\n') (by decide) hspelled') (clear_cons (by decide) _)
  refine ⟨_, stop', node :: nodes, hspelled.append hrest (clear_cons (by decide) _), ?_,
    .cons hstands hstands'⟩
  exact parsesItems_cons hparses hparses'

/-- A key, a colon and a value. -/
theorem spelled_member
    (key : String)
    (hvalue : Written text value)
    (place : Nat) :
    ∃ stop next lexed finish node,
      Spelled place ((quoted key).toList ++ ':' :: ' ' :: text)
          (⟨.text (.ok key), place, stop⟩ :: ⟨.colon, stop, next⟩ :: lexed) finish ∧
        Parses lexed node ∧ Stands node value := by
  obtain ⟨stop, hkey⟩ := spelled_quoted key place
  obtain ⟨lexed, finish, node, hspelled, hparses, hstands⟩ := hvalue (stop + 2)
  have hrest := (spelled_colon stop).append
    (Spelled.space (c := ' ') (by decide) hspelled) (clear_cons (by decide) _)
  exact ⟨stop, _, lexed, finish, node, hkey.append hrest (clear_cons (by decide) _), hparses,
    hstands⟩

theorem Written.members_last
    (key : String)
    (hvalue : Written text value) :
    WrittenMembers ((quoted key).toList ++ ':' :: ' ' :: text) [(key, value)] := by
  intro place
  obtain ⟨stop, next, lexed, finish, node, hspelled, hparses, hstands⟩ :=
    spelled_member key hvalue place
  exact ⟨_, finish, _, hspelled, parsesMembers_last hparses, rfl, .cons hstands .nil⟩

theorem Written.members_cons
    (key : String)
    (hvalue : Written text value)
    (hmembers : WrittenMembers later fields) :
    WrittenMembers ((quoted key).toList ++ ':' :: ' ' :: text ++ ',' :: '\n' :: later)
      ((key, value) :: fields) := by
  intro place
  obtain ⟨stop, next, lexed, finish, node, hspelled, hparses, hstands⟩ :=
    spelled_member key hvalue place
  obtain ⟨lexed', finish', members, hspelled', hparses', hkeys, hstands'⟩ := hmembers (finish + 2)
  have hrest := (spelled_comma finish).append
    (Spelled.space (c := '\n') (by decide) hspelled') (clear_cons (by decide) _)
  refine ⟨_, finish', _, hspelled.append hrest (clear_cons (by decide) _),
    parsesMembers_cons hparses hparses', ?_, .cons hstands hstands'⟩
  simp [hkeys]

theorem WrittenMembers.indented
    (hwritten : WrittenMembers text fields)
    (n : Nat) :
    WrittenMembers (List.replicate n ' ' ++ text) fields := by
  intro place
  obtain ⟨lexed, stop, members, hspelled, hparses⟩ := hwritten (place + n)
  exact ⟨lexed, stop, members, hspelled.spaces n, hparses⟩

mutual

/-- A value whose numbers are read back spells itself, at any level of indentation. -/
theorem written_prettyAt
    (level : Nat) :
    (value : Value) → (∀ leaf ∈ value.leaves, leaf.Printable) →
      Written (value.prettyAt level).toList value
  | .list (item :: items), hprintable => by
      intro place
      obtain ⟨lexed, stop, nodes, hspelled, hparses, hstands⟩ :=
        written_prettyItems (level + 1) (item :: items) (by simp) hprintable (place + 2)
      have hbrackets :=
        spelled_between (spelled_openList place) hspelled (2 * level) spelled_closeList
      have htext : (Value.prettyAt level (.list (item :: items))).toList =
          '[' :: '\n' :: ((Value.prettyItems (level + 1) (item :: items)).toList ++
            '\n' :: (List.replicate (2 * level) ' ' ++ [']'])) := by
        simp [Value.prettyAt, indent]
      rw [htext]
      exact ⟨_, _, _, hbrackets, parses_list hparses, .list hstands⟩
  | .object (member :: members), hprintable => by
      intro place
      obtain ⟨lexed, stop, nodes, hspelled, hparses, hkeys, hstands⟩ :=
        written_prettyMembers (level + 1) (member :: members) (by simp) hprintable (place + 2)
      have hbrackets :=
        spelled_between (spelled_openObject place) hspelled (2 * level) spelled_closeObject
      have htext : (Value.prettyAt level (.object (member :: members))).toList =
          '\x7b' :: '\n' :: ((Value.prettyMembers (level + 1) (member :: members)).toList ++
            '\n' :: (List.replicate (2 * level) ' ' ++ ['\x7d'])) := by
        simp [Value.prettyAt, indent]
      rw [htext]
      exact ⟨_, _, _, hbrackets, parses_object hparses, .object hkeys hstands⟩
  | .list [], _ => written_emptyList
  | .object [], _ => written_emptyObject
  | .null, hprintable | .truth _, hprintable | .integer _, hprintable | .real _, hprintable
  | .single _, hprintable | .text _, hprintable =>
      written_scalarText (hprintable _ (by simp [Value.leaves])) (by simp) (by simp)

theorem written_prettyItems
    (level : Nat) :
    (items : List Value) → items ≠ [] → (∀ leaf ∈ Value.itemLeaves items, leaf.Printable) →
      WrittenItems (Value.prettyItems level items).toList items
  | [], hne, _ => absurd rfl hne
  | [item], _, hprintable => by
      have hitem := written_prettyAt level item fun leaf hleaf =>
        hprintable leaf (List.mem_append_left _ hleaf)
      simpa [Value.prettyItems, indent] using (hitem.indented (2 * level)).items_last
  | item :: next :: items, _, hprintable => by
      have hitem := written_prettyAt level item fun leaf hleaf =>
        hprintable leaf (List.mem_append_left _ hleaf)
      have hitems := written_prettyItems level (next :: items) (by simp) fun leaf hleaf =>
        hprintable leaf (List.mem_append_right _ hleaf)
      simpa [Value.prettyItems, indent] using (hitem.indented (2 * level)).items_cons hitems

theorem written_prettyMembers
    (level : Nat) :
    (members : List (String × Value)) → members ≠ [] →
      (∀ leaf ∈ Value.memberLeaves members, leaf.Printable) →
        WrittenMembers (Value.prettyMembers level members).toList members
  | [], hne, _ => absurd rfl hne
  | [(key, value)], _, hprintable => by
      have hvalue := written_prettyAt level value fun leaf hleaf =>
        hprintable leaf (List.mem_append_left _ hleaf)
      simpa [Value.prettyMembers, indent] using (hvalue.members_last key).indented (2 * level)
  | (key, value) :: next :: members, _, hprintable => by
      have hvalue := written_prettyAt level value fun leaf hleaf =>
        hprintable leaf (List.mem_append_left _ hleaf)
      have hmembers := written_prettyMembers level (next :: members) (by simp) fun leaf hleaf =>
        hprintable leaf (List.mem_append_right _ hleaf)
      simpa [Value.prettyMembers, indent] using
        (hvalue.members_cons key hmembers).indented (2 * level)

end

/-- The document of a printed value is a node of its form, and nothing else. -/
theorem document_pretty
    {value : Value}
    (hprintable : ∀ leaf ∈ value.leaves, leaf.Printable) :
    ∃ node, document value.pretty = ⟨node, none⟩ ∧ Stands node value := by
  obtain ⟨lexed, stop, node, hspelled, ⟨-, hparses⟩, hstands⟩ :=
    written_prettyAt 0 value hprintable 0
  have hlexes := hspelled [] [] (by simp [Clear]) (Lexes.nil stop)
  rw [List.append_nil, List.append_nil] at hlexes
  have hlexemes : lexemes value.pretty = lexed :=
    hlexes.lexemesFrom_eq (Nat.le_of_eq String.length_toList)
  have hread := hparses value.pretty.utf8ByteSize (2 * lexed.length + 2) [] (by omega)
  rw [List.append_nil] at hread
  refine ⟨node, ?_, hstands⟩
  simp only [document, hlexemes, hread, List.head?_nil, Option.map_none]

end Texts

end Json
end CodeAudit
