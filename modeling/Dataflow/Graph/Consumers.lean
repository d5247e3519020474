import Dataflow.Graph.Basic
/-!
# Consumers

`Graph.consumerTable` lists for every node the nodes that read its outputs. The table starts with the
declared nodes and no consumers, and takes in the connections one by one: the target of a connection
is listed for its source, behind the others, unless it is listed there already. A source that is not
declared gets its place when its first connection is taken in.

What the table says in the end does not need the way there. It lists for a node the targets of the
connections that leave it, each once (`Graph.dependents_eq`), and its nodes are the declared ones and
then the other sources, each once (`Graph.keys_consumerTable`).
-/

namespace Dataflow.Graph

variable {g : Graph} {table : OrderedMap (List String)} {before connections : List Connection} {c : Connection}
  {id : String}

/-- The consumers that a table lists for a node; none for a node that it does not have. -/
def listed (table : OrderedMap (List String)) (id : String) : List String := (table.get? id).getD []

/-- Lists the target of a connection for its source, unless it is listed there already. -/
def addConsumer (table : OrderedMap (List String)) (c : Connection) : OrderedMap (List String) :=
  let known := listed table c.source.node
  table.insert c.source.node (if known.contains c.target.node then known else known ++ [c.target.node])

/-- For every node the nodes that read its outputs. -/
def consumerTable (g : Graph) : OrderedMap (List String) :=
  g.connections.foldl addConsumer (g.nodes.map fun _ => [])

/-- The nodes that read an output of `id`, each once, in the order of the connections. -/
def dependents (g : Graph) (id : String) : List String := listed g.consumerTable id

/-- For every node its consumers, in order. -/
def adjacency (g : Graph) : List (String × List String) := g.consumerTable.entries

/-! ## Lists without repetition -/

/-- What is appended is dropped if it is there already. -/
theorem eraseDups_concat (xs : List String) (x : String) :
    (xs ++ [x]).eraseDups = if x ∈ xs then xs.eraseDups else xs.eraseDups ++ [x] := by
  rw [List.eraseDups_append]
  by_cases h : x ∈ xs <;> simp [List.removeAll, List.eraseDups_cons, h]

theorem eraseDups_of_nodup {xs : List String} (h : xs.Nodup) : xs.eraseDups = xs := by
  induction xs with
  | nil => rfl
  | cons x xs ih =>
    obtain ⟨hx, hxs⟩ := List.nodup_cons.1 h
    have hothers : xs.filter (fun y => !y == x) = xs :=
      List.filter_eq_self.2 fun y hy => by simpa using ne_of_mem_of_not_mem hy hx
    rw [List.eraseDups_cons, hothers, ih hxs]

/-! ## What the table lists for a node -/

/-- The nodes that connections lead to from a node, once for every connection. -/
def consumers (connections : List Connection) (id : String) : List String :=
  (connections.filter (·.source.node = id)).map (·.target.node)

@[simp] theorem consumers_append (front back : List Connection) :
    consumers (front ++ back) id = consumers front id ++ consumers back id := by
  simp [consumers]

@[simp] theorem consumers_cons (c : Connection) (back : List Connection) :
    consumers (c :: back) id =
      if c.source.node = id then c.target.node :: consumers back id else consumers back id := by
  by_cases h : c.source.node = id <;> simp [consumers, h]

theorem mem_consumers {target : String} :
    target ∈ consumers connections id ↔ ∃ c ∈ connections, c.source.node = id ∧ c.target.node = target := by
  simp [consumers, and_assoc]

/-- One more connection: the table goes on listing the consumers of every node once. -/
theorem listed_addConsumer (h : listed table id = (consumers before id).eraseDups) :
    listed (addConsumer table c) id = (consumers (before ++ [c]) id).eraseDups := by
  by_cases hid : c.source.node = id
  · subst hid
    have hconsumers : consumers (before ++ [c]) c.source.node = consumers before c.source.node ++ [c.target.node] := by
      simp [consumers]
    have hknown : (listed table c.source.node).contains c.target.node = true ↔
        c.target.node ∈ consumers before c.source.node := by
      rw [List.contains_iff_mem, h, List.mem_eraseDups]
    rw [hconsumers, eraseDups_concat, ← h, listed, addConsumer, OrderedMap.get?_insert, if_pos rfl, Option.getD_some]
    simp only [hknown]
  · have hconsumers : consumers (before ++ [c]) id = consumers before id := by simp [consumers, hid]
    rw [hconsumers, ← h, listed, addConsumer, OrderedMap.get?_insert, if_neg (Ne.symm hid), listed]

theorem listed_foldl_addConsumer (h : listed table id = (consumers before id).eraseDups)
    (connections : List Connection) :
    listed (connections.foldl addConsumer table) id = (consumers (before ++ connections) id).eraseDups := by
  induction connections generalizing table before with
  | nil => simpa using h
  | cons c rest ih => rw [List.foldl_cons, ih (listed_addConsumer h), List.append_assoc, List.singleton_append]

/-- The table lists the targets of the connections that leave a node, each where it first comes. -/
theorem dependents_eq (g : Graph) (id : String) : g.dependents id = (consumers g.connections id).eraseDups := by
  have hstart : listed (g.nodes.map fun _ => []) id = (consumers [] id).eraseDups := by
    rw [listed, OrderedMap.get?_map]
    cases g.nodes.get? id <;> rfl
  exact listed_foldl_addConsumer hstart g.connections

theorem mem_dependents {a b : String} : b ∈ g.dependents a ↔ g.Joins a b := by
  rw [dependents_eq, List.mem_eraseDups, mem_consumers, Joins]

/-! ## The nodes of the table -/

theorem keys_foldl_addConsumer {known : List String} (h : table.keys = known.eraseDups) (connections : List Connection) :
    (connections.foldl addConsumer table).keys = (known ++ connections.map (·.source.node)).eraseDups := by
  induction connections generalizing table known with
  | nil => simpa using h
  | cons c rest ih =>
    have hkeys : (addConsumer table c).keys = (known ++ [c.source.node]).eraseDups := by
      simp only [addConsumer, OrderedMap.keys_insert, h, List.mem_eraseDups, eraseDups_concat]
    rw [List.foldl_cons, ih hkeys, List.append_assoc, List.singleton_append, List.map_cons]

/-- The nodes of the table are the declared ones and then the other sources, each once. -/
theorem keys_consumerTable (g : Graph) :
    g.consumerTable.keys = (g.ids ++ g.connections.map (·.source.node)).eraseDups := by
  have hstart : (g.nodes.map fun _ => ([] : List String)).keys = g.ids.eraseDups := by
    rw [OrderedMap.keys_map, eraseDups_of_nodup g.nodup_ids, ids]
  exact keys_foldl_addConsumer hstart g.connections

theorem adjacency_eq (g : Graph) :
    g.adjacency = ((g.ids ++ g.connections.map (·.source.node)).eraseDups).map fun id =>
      (id, (consumers g.connections id).eraseDups) := by
  rw [adjacency, OrderedMap.entries_eq_map_keys g.consumerTable [], keys_consumerTable]
  exact List.map_congr_left fun id _ => congrArg (id, ·) (dependents_eq g id)

end Dataflow.Graph
