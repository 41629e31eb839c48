import ActorServices.Sql
import Mathlib.Logic.Function.Basic

set_option autoImplicit false

namespace ActorServices.Sql

/-- A list has exactly the map's values, each under its own key. -/
structure Lists {V : Type} (key : V → String) (values : List V) (map : String → Option V) :
    Prop where
  unique : (values.map key).Nodup
  same : ∀ name value, map name = some value ↔ value ∈ values ∧ key value = name

section Lists

variable {V : Type} {key : V → String} {values : List V} {map : String → Option V}

/-- At most one of the values has this key. -/
theorem Lists.filter (lists : Lists key values map) (name : String) :
    values.filter (fun value => key value == name) = (map name).toList := by
  induction values generalizing map with
  | nil =>
      cases found : map name with
      | none => rfl
      | some value =>
          have member := ((lists.same name value).mp found).1
          cases member
  | cons first values ih =>
      have unique := lists.unique
      rw [List.map_cons, List.nodup_cons] at unique
      by_cases here : key first = name
      · have found : map name = some first := (lists.same name first).mpr ⟨List.mem_cons_self, here⟩
        have others : values.filter (fun value => key value == name) = [] := by
          apply List.filter_eq_nil_iff.mpr
          intro other member hit
          apply unique.1
          rw [here, ← of_decide_eq_true hit]
          exact List.mem_map_of_mem member
        rw [List.filter_cons, if_pos (beq_iff_eq.mpr here), others, found]
        rfl
      · have rest : ∀ other value, (if other = key first then none else map other) =
            some value ↔ value ∈ values ∧ key value = other := by
          intro other value
          by_cases mine : other = key first
          · rw [if_pos mine]
            refine ⟨nofun, fun member => ?_⟩
            apply absurd (List.mem_map_of_mem (f := key) member.1)
            rw [member.2, mine]
            exact unique.1
          · rw [if_neg mine, lists.same other value, List.mem_cons]
            constructor
            · rintro ⟨rfl | member, keyed⟩
              · exact absurd keyed.symm mine
              · exact ⟨member, keyed⟩
            · exact fun member => ⟨.inr member.1, member.2⟩
        rw [List.filter_cons, if_neg (by simpa using here), ih ⟨unique.2, rest⟩,
          if_neg (Ne.symm here)]

theorem Lists.fresh (lists : Lists key values map) {value : V} (free : map (key value) = none) :
    ∀ other ∈ values, key other ≠ key value := by
  intro other member keyed
  have found := (lists.same (key value) other).mpr ⟨member, keyed⟩
  rw [free] at found
  cases found

theorem Lists.append (lists : Lists key values map) {value : V} (free : map (key value) = none) :
    Lists key (values ++ [value]) (Function.update map (key value) (some value)) where
  unique := by
    rw [List.map_append, List.nodup_append]
    refine ⟨lists.unique, List.nodup_singleton _, ?_⟩
    intro name member other single
    obtain ⟨stored, present, rfl⟩ := List.mem_map.mp member
    rw [List.mem_singleton.mp single]
    exact lists.fresh free stored present
  same := by
    intro name other
    rw [List.mem_append, List.mem_singleton]
    by_cases self : name = key value
    · rw [self, Function.update_self]
      constructor
      · intro found
        cases found
        exact ⟨.inr rfl, rfl⟩
      · rintro ⟨member | rfl, keyed⟩
        · exact absurd keyed (lists.fresh free other member)
        · rfl
    · rw [Function.update_of_ne self, lists.same name other]
      constructor
      · exact fun found => ⟨.inl found.1, found.2⟩
      · rintro ⟨member | rfl, keyed⟩
        · exact ⟨member, keyed⟩
        · exact absurd keyed.symm self

theorem Lists.remove (lists : Lists key values map) (name : String) :
    Lists key (values.filter fun value => !(key value == name))
      (Function.update map name none) where
  unique := List.Nodup.sublist (List.Sublist.map _ List.filter_sublist) lists.unique
  same := by
    intro other value
    rw [List.mem_filter]
    by_cases self : other = name
    · rw [self, Function.update_self]
      refine ⟨nofun, fun member => ?_⟩
      have kept : (key value == name) = false := by simpa using member.1.2
      rw [member.2, beq_self_eq_true] at kept
      cases kept
    · rw [Function.update_of_ne self, lists.same other value]
      constructor
      · rintro ⟨member, keyed⟩
        refine ⟨⟨member, ?_⟩, keyed⟩
        simpa [keyed] using self
      · exact fun member => ⟨member.1.1, member.2⟩

/-- A change of the value of one key that keeps the keys. -/
theorem Lists.adjust (lists : Lists key values map) (name : String) {change : V → V}
    (keys : ∀ value, key (change value) = key value) :
    Lists key (values.map fun value => if key value == name then change value else value)
      (Function.update map name ((map name).map change)) where
  unique := by
    have composed : key ∘ (fun value => if key value == name then change value else value) =
        key := by
      funext value
      simp only [Function.comp_apply]
      split
      · exact keys value
      · rfl
    rw [List.map_map, composed]
    exact lists.unique
  same := by
    have own : ∀ {value : V}, key value = name →
        (if key value == name then change value else value) = change value :=
      fun keyed => if_pos (beq_iff_eq.mpr keyed)
    have others : ∀ {value : V}, key value ≠ name →
        (if key value == name then change value else value) = value := by
      intro value distinct
      rw [if_neg]
      simpa using distinct
    intro other value
    rw [List.mem_map]
    by_cases self : other = name
    · subst self
      rw [Function.update_self, Option.map_eq_some_iff]
      constructor
      · rintro ⟨stored, found, rfl⟩
        obtain ⟨member, keyed⟩ := (lists.same other stored).mp found
        exact ⟨⟨stored, member, own keyed⟩, (keys stored).trans keyed⟩
      · rintro ⟨⟨stored, member, rfl⟩, keyed⟩
        by_cases mine : key stored = other
        · exact ⟨stored, (lists.same other stored).mpr ⟨member, mine⟩, (own mine).symm⟩
        · rw [others mine] at keyed
          exact absurd keyed mine
    · rw [Function.update_of_ne self, lists.same other value]
      constructor
      · rintro ⟨member, keyed⟩
        have distinct : key value ≠ name := fun mine => self (keyed.symm.trans mine)
        exact ⟨⟨value, member, others distinct⟩, keyed⟩
      · rintro ⟨⟨stored, member, rfl⟩, keyed⟩
        by_cases mine : key stored = name
        · rw [own mine, keys stored] at keyed
          exact absurd (keyed.symm.trans mine) self
        · rw [others mine] at keyed ⊢
          exact ⟨member, keyed⟩

end Lists

/-- How values are laid out in a table: the columns, the parameters of an INSERT and the
decoding of a returned row, and that these fit each other. -/
structure Layout (V : Type) where
  name : String
  columns : List Column
  primaryKey : String
  counter : String
  names : List String
  key : V → String
  count : V → Int
  bump : Int → V → V
  encode : V → List Value
  row : V → Row
  decode : Row → Except Error V
  known : ∀ column, column = primaryKey ∨ column = counter ∨ column ∈ names →
    column ∈ columns.map Column.name
  insert_row : ∀ value, insertRow columns names (encode value) = .ok (row value)
  row_key : ∀ value, (row value).get primaryKey = .text (key value)
  decode_row : ∀ value, decode ((row value).project names) = .ok value
  row_bump : ∀ n value, IsI64 (count value + n) →
    (row value).addTo columns counter (.integer n) = .ok (row (bump n value))
  key_bump : ∀ n value, key (bump n value) = key value

namespace Layout

variable {V : Type} (layout : Layout V)

def table (values : List V) : Table where
  name := layout.name
  columns := layout.columns
  primaryKey := layout.primaryKey
  rows := values.map layout.row

@[simp] theorem table_name (values : List V) : (layout.table values).name = layout.name := rfl

@[simp] theorem table_columns (values : List V) :
    (layout.table values).columns = layout.columns := rfl

@[simp] theorem table_primaryKey (values : List V) :
    (layout.table values).primaryKey = layout.primaryKey := rfl

@[simp] theorem table_rows (values : List V) :
    (layout.table values).rows = values.map layout.row := rfl

/-- The statement is about the layout's table and columns. -/
def Own (statement : Statement) : Prop :=
  statement.table = layout.name ∧ ∀ name ∈ statement.names,
    name = layout.primaryKey ∨ name = layout.counter ∨ name ∈ layout.names

/-- The table has exactly the map's values, each under its own key. -/
structure Holds (table : Table) (map : String → Option V) : Prop where
  stores : ∃ values, table = layout.table values ∧ (values.map layout.key).Nodup ∧
    ∀ key value, map key = some value ↔ value ∈ values ∧ layout.key value = key

section Holds

variable {layout} {values : List V} {map : String → Option V} {key : String}

theorem Holds.empty : layout.Holds (layout.table []) fun _ => none :=
  ⟨[], rfl, List.nodup_nil, fun _ _ => ⟨nofun, fun absent => nomatch absent.1⟩⟩

theorem hasKey_row (key : String) (value : V) :
    (layout.row value).hasKey layout.primaryKey (.text key) = (layout.key value == key) := by
  simp only [Row.hasKey, layout.row_key, Value.equals]

theorem filter_rows (key : String) :
    ((layout.table values).rows.filter (Row.hasKey layout.primaryKey (.text key))) =
      (values.filter fun value => layout.key value == key).map layout.row := by
  rw [table, List.filter_map]
  congr 1
  apply List.filter_congr
  exact fun value _ => hasKey_row key value

theorem execute_own {statement : Statement} (own : layout.Own statement) (binds : List Value) :
    execute (layout.table values) statement binds = run (layout.table values) binds statement := by
  have all : statement.names.find? (fun name => name ∉ layout.columns.map Column.name) = none := by
    apply List.find?_eq_none.mpr
    intro name member
    simpa using layout.known name (own.2 name member)
  unfold execute
  rw [table_name, if_pos own.1, table_columns, all]

theorem own_insert : layout.Own (.insert layout.name layout.names) :=
  ⟨rfl, fun _ member => .inr (.inr member)⟩

theorem own_select : layout.Own (.select layout.names layout.name layout.primaryKey) := by
  refine ⟨rfl, fun name member => ?_⟩
  cases List.mem_append.mp member with
  | inl listed => exact .inr (.inr listed)
  | inr keyed => exact .inl (List.mem_singleton.mp keyed)

theorem own_update : layout.Own (.update layout.name layout.counter layout.primaryKey) := by
  refine ⟨rfl, fun name member => ?_⟩
  cases List.mem_cons.mp member with
  | inl counted => exact .inr (.inl counted)
  | inr keyed => exact .inl (List.mem_singleton.mp keyed)

theorem own_delete {returning : List String} (listed : ∀ name ∈ returning, name ∈ layout.names) :
    layout.Own (.delete layout.name layout.primaryKey returning) := by
  refine ⟨rfl, fun name member => ?_⟩
  cases List.mem_cons.mp member with
  | inl keyed => exact .inl keyed
  | inr member => exact .inr (.inr (listed name member))

theorem mapM_ok {α β ε : Type} {f : α → Except ε β} {g : α → β} {items : List α}
    (each : ∀ item ∈ items, f item = .ok (g item)) : items.mapM f = .ok (items.map g) := by
  induction items with
  | nil => rfl
  | cons item items ih =>
      have rest := ih fun other member => each other (List.mem_cons_of_mem item member)
      rw [List.mapM_cons, each item List.mem_cons_self, rest]
      rfl

/-- An INSERT of a key that is taken. -/
theorem Holds.insert_taken {table : Table} (holds : layout.Holds table map) {value other : V}
    (taken : map (layout.key value) = some other) :
    execute table (.insert layout.name layout.names) (layout.encode value) = .error .unique := by
  obtain ⟨values, rfl, _, same⟩ := holds.stores
  obtain ⟨member, keyed⟩ := (same _ _).mp taken
  have clash : (values.map layout.row).any (Row.hasKey layout.primaryKey
      (.text (layout.key value))) = true := by
    apply List.any_eq_true.mpr
    refine ⟨layout.row other, List.mem_map_of_mem member, ?_⟩
    rw [hasKey_row, keyed]
    exact beq_self_eq_true _
  rw [execute_own own_insert]
  simp only [run, table_columns, table_rows, table_primaryKey, layout.insert_row]
  show (if (values.map layout.row).any (Row.hasKey layout.primaryKey
    ((layout.row value).get layout.primaryKey)) = true then _ else _) = _
  rw [layout.row_key, if_pos clash]

theorem Holds.insert_free {table : Table} (holds : layout.Holds table map) {value : V}
    (free : map (layout.key value) = none) :
    ∃ after, execute table (.insert layout.name layout.names) (layout.encode value) =
        .ok ⟨after, 1, []⟩ ∧
      layout.Holds after (Function.update map (layout.key value) (some value)) := by
  obtain ⟨values, rfl, unique, same⟩ := holds.stores
  have lists : Lists layout.key values map := ⟨unique, same⟩
  have clear : ¬ (values.map layout.row).any (Row.hasKey layout.primaryKey
      (.text (layout.key value))) = true := by
    rw [Bool.not_eq_true]
    apply List.any_eq_false.mpr
    intro row member
    obtain ⟨other, stored, rfl⟩ := List.mem_map.mp member
    rw [hasKey_row]
    simpa using lists.fresh free other stored
  have longer := lists.append free
  refine ⟨layout.table (values ++ [value]), ?_, ⟨_, rfl, longer.unique, longer.same⟩⟩
  rw [execute_own own_insert]
  simp only [run, table_columns, table_rows, table_primaryKey, layout.insert_row]
  show (if (values.map layout.row).any (Row.hasKey layout.primaryKey
    ((layout.row value).get layout.primaryKey)) = true then _ else _) = _
  rw [layout.row_key, if_neg clear]
  simp only [table, List.map_append, List.map_cons, List.map_nil]
  rfl

theorem Holds.select {table : Table} (holds : layout.Holds table map) (key : String) :
    execute table (.select layout.names layout.name layout.primaryKey) [.text key] =
      .ok ⟨table, 0,
        (map key).toList.map fun value => (layout.row value).project layout.names⟩ := by
  obtain ⟨values, rfl, unique, same⟩ := holds.stores
  have lists : Lists layout.key values map := ⟨unique, same⟩
  rw [execute_own own_select]
  simp only [run, List.getD_cons_zero]
  rw [filter_rows, lists.filter, List.map_map]
  rfl

/-- A DELETE by key returns and removes the value of the key. -/
theorem Holds.delete {table : Table} (holds : layout.Holds table map) (key : String)
    (returning : List String) (listed : ∀ name ∈ returning, name ∈ layout.names) :
    ∃ after, execute table (.delete layout.name layout.primaryKey returning) [.text key] =
        .ok ⟨after, (map key).toList.length, if returning.isEmpty then [] else
          (map key).toList.map fun value => (layout.row value).project returning⟩ ∧
      layout.Holds after (Function.update map key none) := by
  obtain ⟨values, rfl, unique, same⟩ := holds.stores
  have lists : Lists layout.key values map := ⟨unique, same⟩
  have left : (layout.table values).rows.filter (fun row => !row.hasKey layout.primaryKey
      (.text key)) = (values.filter fun value => !(layout.key value == key)).map layout.row := by
    rw [Layout.table, List.filter_map]
    congr 1
    apply List.filter_congr
    intro value _
    show (!(layout.row value).hasKey layout.primaryKey (.text key)) = _
    rw [hasKey_row]
  have fewer := lists.remove key
  refine ⟨layout.table (values.filter fun value => !(layout.key value == key)), ?_,
    ⟨_, rfl, fewer.unique, fewer.same⟩⟩
  rw [execute_own (own_delete listed)]
  simp only [run, List.getD_cons_zero]
  rw [filter_rows, lists.filter, left, List.map_map, List.length_map]
  rfl

/-- An UPDATE by key adds to the counter of the value of the key. -/
theorem Holds.update {table : Table} (holds : layout.Holds table map) (key : String) (n : Int)
    (fits : ∀ value, map key = some value → IsI64 (layout.count value + n)) :
    ∃ after, execute table (.update layout.name layout.counter layout.primaryKey)
        [.integer n, .text key] = .ok ⟨after, (map key).toList.length, []⟩ ∧
      layout.Holds after (Function.update map key ((map key).map (layout.bump n))) := by
  obtain ⟨values, rfl, unique, same⟩ := holds.stores
  have lists : Lists layout.key values map := ⟨unique, same⟩
  have adjusted := lists.adjust key (layout.key_bump n)
  refine ⟨layout.table (values.map fun value =>
    if layout.key value == key then layout.bump n value else value), ?_,
    ⟨_, rfl, adjusted.unique, adjusted.same⟩⟩
  have each : ∀ value ∈ values,
      (if (layout.row value).hasKey layout.primaryKey (.text key) then
        (layout.row value).addTo layout.columns layout.counter (.integer n)
        else pure (layout.row value)) =
      .ok (layout.row (if layout.key value == key then layout.bump n value else value)) := by
    intro value member
    rw [hasKey_row]
    split
    · rename_i hit
      apply layout.row_bump n value
      exact fits value ((same key value).mpr ⟨member, beq_iff_eq.mp hit⟩)
    · rfl
  have rows : (layout.table values).rows.mapM (fun row =>
      if row.hasKey layout.primaryKey (.text key) then
        row.addTo layout.columns layout.counter (.integer n) else pure row) =
      .ok ((values.map fun value =>
        if layout.key value == key then layout.bump n value else value).map layout.row) := by
    rw [table_rows, List.map_map, List.mapM_map]
    exact mapM_ok each
  rw [execute_own own_update]
  simp only [run, List.getD_cons_zero, List.getD_cons_succ, table_columns, table_primaryKey]
  rw [rows, filter_rows, lists.filter, List.length_map]
  rfl

end Holds

end Layout

end ActorServices.Sql
