import LibraryManagement.Client.AuthContext
import LibraryManagement.Client.ListPages
import LibraryManagement.Fetching.Pager

/-! List pages whose rows are created, edited and deleted in place. A created row is put in front
of those shown, an edited one is replaced and a deleted one taken out; the page is loaded again
only when the search or its number changes. Requests are answered one after another, and nobody
else writes meanwhile.
-/

namespace LibraryManagement

open Fetching Relational Transition

/-- The requests that a page with a dialog for each row sends, and what it reads of their answers;
none where the client-side validation refuses the form.
-/
structure RowsPage (Row Form : Type) where
  id : Row → Nat
  list : String → Nat → Request
  listed : Body → Option (List Row)
  create : Form → Option Request
  update : Nat → Form → Option Request
  destroy : Nat → Request
  saved : Body → Option Row
  /-- The rows after the update of one of them was answered with its new contents. -/
  replace : Nat → Row → List Row → List Row

inductive RowAction (Form : Type) where
  | turn (env : Env) (event : SearchEvent)
  | create (env : Env) (form : Form)
  | update (env : Env) (id : Nat) (form : Form)
  | destroy (env : Env) (id : Nat)

structure Listing (Row : Type) where
  page : SearchPage Row
  store : Store

namespace RowsPage

variable {Row Form : Type} (rows : RowsPage Row Form) (platform : Platform) (session : Nat)

def request (env : Env) (request : Request) : Call where
  env := env
  session := some session
  request := request

theorem currentUser_request {s : Store} {user : User} (found : user ∈ s.users.find? session)
    (env : Env) (given : Request)
    : (request session env given).currentUser s = some user :=
  found

/-- The list is `res.data`, and empty where there is none. -/
def load (env : Env) (listing : Listing Row) : Listing Row :=
  let (response, store) := perform platform listing.store
    (request session env (rows.list listing.page.q listing.page.page))
  let received := if response.succeeded then (rows.listed response.body).getD [] else []
  { page := { listing.page with rows := received }, store := store }

/-- `useEffect(() => { ... }, [q, page])` -/
def rerender (env : Env) (listing : Listing Row) (page : SearchPage Row) : Listing Row :=
  if page.q = listing.page.q ∧ page.page = listing.page.page then
    { listing with page := page }
  else
    rows.load platform session env { listing with page := page }

def mount (env : Env) (store : Store) : Listing Row :=
  rows.load platform session env { page := {}, store := store }

/-- The row of a response that the promise is resolved with. -/
def answer (response : Response) : Option Row :=
  if response.succeeded then rows.saved response.body else none

/-- The row is in the table, with its buttons. -/
def shows (page : SearchPage Row) (id : Nat) : Bool := page.rows.any (fun row => rows.id row == id)

def step (listing : Listing Row) : RowAction Form → Listing Row
  | .turn env event => rows.rerender platform session env listing (listing.page.act event)
  | .create env form =>
      match rows.create form with
      | none => listing
      | some post =>
          let (response, store) := perform platform listing.store (request session env post)
          match rows.answer response with
          | some row =>
              { page := { listing.page with rows := row :: listing.page.rows }, store := store }
          | none => { listing with store := store }
  | .update env id form =>
      match rows.shows listing.page id, rows.update id form with
      | true, some put =>
          let (response, store) := perform platform listing.store (request session env put)
          match rows.answer response with
          | some row =>
              { page := { listing.page with rows := rows.replace id row listing.page.rows }
                store := store }
          | none => { listing with store := store }
      | _, _ => listing
  | .destroy env id =>
      if rows.shows listing.page id then
        let (response, store) := perform platform listing.store
          (request session env (rows.destroy id))
        if response.succeeded then
          { page := { listing.page with
              rows := listing.page.rows.filter (fun row => rows.id row != id) }
            store := store }
        else
          { listing with store := store }
      else
        listing

end RowsPage

structure RowsTable (Record Form : Type) [Keyed Record] where
  table : Store → Table Record
  /-- Where a row is looked up by its id. -/
  scope : Record → Bool
  /-- The condition of the list query. -/
  listed : Platform → String → Record → Bool
  /-- The row that a valid form adds. -/
  inserts : Platform → Env → Store → Form → Option (Table.NewRow Record)
  /-- What a valid form makes of a row. -/
  revises : Platform → Env → Store → Record → Form → Option (Table.Change Record)

namespace RowsTable

variable {Record Row Form : Type} [Keyed Record] (records : RowsTable Record Form)
  (rows : RowsPage Row Form) (platform : Platform) (session : Nat)

def matching (s : Store) (q : String) : Nat :=
  (records.table s).rows.countP (records.listed platform q)

def pager (listing : Listing Row) : Pager where
  size := perPage
  number := listing.page.page
  shown := listing.page.rows.length
  matching := records.matching platform listing.store listing.page.q

/-- While the server has matching rows for later pages, `Next` is rendered and enabled. -/
def NextReachable (listing : Listing Row) : Prop :=
  25 * listing.page.page < records.matching platform listing.store listing.page.q
    → listing.page.pagerShown && !(listing.page.rows.length < 25)

theorem nextReachable_iff (listing : Listing Row)
    : records.NextReachable platform listing ↔ (records.pager platform listing).Reachable :=
  Iff.rfl

instance (listing : Listing Row) : Decidable (records.NextReachable platform listing) :=
  inferInstanceAs (Decidable (_ → _))

/-- An accepted write is one that the pager allows. -/
def KeepsNext (listing : Listing Row) : RowAction Form → Prop
  | .turn .. => True
  | .create env form =>
      (rows.create form).isSome
      → ∀ new ∈ records.inserts platform env listing.store form,
          (records.pager platform listing).AllowsPrepend
            (records.listed platform listing.page.q
              (new.build (records.table listing.store).nextKey))
  | .update env id form =>
      rows.shows listing.page id → (rows.update id form).isSome
      → ∀ record ∈ (records.table listing.store).find? id,
          ∀ change ∈ records.revises platform env listing.store record form,
            (records.pager platform listing).AllowsReplace
              (records.listed platform listing.page.q record)
              (records.listed platform listing.page.q (change.apply record))
  | .destroy _ id =>
      rows.shows listing.page id
      → ∀ record ∈ (records.table listing.store).find? id,
          (records.pager platform listing).AllowsRemove
            (records.listed platform listing.page.q record)

instance (listing : Listing Row)
    : DecidablePred (records.KeepsNext rows platform listing)
  | .turn .. => isTrue trivial
  | .create .. => inferInstanceAs (Decidable (_ → ∀ new ∈ _, _))
  | .update .. => inferInstanceAs (Decidable (_ → _ → ∀ record ∈ _, ∀ change ∈ _, _))
  | .destroy .. => inferInstanceAs (Decidable (_ → ∀ record ∈ _, _))

def SignedIn (s : Store) : Prop := ∃ user ∈ s.users.find? session, user.role = .librarian

/-- How the endpoints of a page serve a librarian. -/
structure Serves : Prop where
  list : ∀ {s : Store}, SignedIn session s → ∀ (env : Env) (q : String) (index : Nat),
    ∃ (body : Body) (listed : List Row),
      perform platform s (RowsPage.request session env (rows.list q (index + 1))) = (⟨.ok, body⟩, s)
      ∧ rows.listed body = some listed
      ∧ (listed.map rows.id).Nodup
      ∧ (∀ row ∈ listed, ∃ record ∈ (records.table s).rows,
          records.scope record ∧ key record = rows.id row)
      ∧ listed.length = min perPage (records.matching platform s q - index * perPage)
  create : ∀ {s : Store}, SignedIn session s → ∀ (env : Env) {form : Form} {post : Request},
    rows.create form = some post →
    (records.inserts platform env s form = none
      → ∃ response, perform platform s (RowsPage.request session env post) = (response, s)
        ∧ rows.answer response = none)
    ∧ ∀ new, records.inserts platform env s form = some new
      → ∃ response s' row, perform platform s (RowsPage.request session env post) = (response, s')
        ∧ rows.answer response = some row ∧ rows.id row = (records.table s).nextKey
        ∧ records.table s' = (records.table s).insert new
        ∧ records.scope (new.build (records.table s).nextKey) ∧ SignedIn session s'
  update : ∀ {s : Store}, SignedIn session s → ∀ {record : Record},
    record ∈ (records.table s).rows → records.scope record →
    ∀ (env : Env) {form : Form} {put : Request}, rows.update (key record) form = some put →
    (records.revises platform env s record form = none
      → ∃ response, perform platform s (RowsPage.request session env put) = (response, s)
        ∧ rows.answer response = none)
    ∧ ∀ change, records.revises platform env s record form = some change
      → ∃ response s' row, perform platform s (RowsPage.request session env put) = (response, s')
        ∧ rows.answer response = some row ∧ rows.id row = key record
        ∧ records.table s' = (records.table s).update (fun other => key other == key record) change
        ∧ records.scope (change.apply record) ∧ SignedIn session s'
  destroy : ∀ {s : Store}, SignedIn session s → ∀ {record : Record},
    record ∈ (records.table s).rows → records.scope record → ∀ (env : Env),
    ∃ response s', perform platform s (RowsPage.request session env (rows.destroy (key record)))
        = (response, s')
      ∧ response.succeeded
      ∧ records.table s' = (records.table s).delete (fun other => key other == key record)
      ∧ SignedIn session s'
  replace : ∀ {row : Row} {id : Nat} (shown : List Row), rows.id row = id
    → (rows.replace id row shown).map rows.id = shown.map rows.id

/-- What holds along every run: the rows shown are different rows of the table. -/
structure Shown (listing : Listing Row) : Prop where
  signedIn : SignedIn session listing.store
  number : 1 ≤ listing.page.page
  distinct : (listing.page.rows.map rows.id).Nodup
  stored : ∀ row ∈ listing.page.rows, ∃ record ∈ (records.table listing.store).rows,
    records.scope record ∧ key record = rows.id row

variable {records rows platform session}

/-- A shown row is one of the table. -/
theorem Shown.record {listing : Listing Row} (shown : Shown records rows session listing) {id : Nat}
    (here : rows.shows listing.page id)
    : ∃ record ∈ (records.table listing.store).rows, records.scope record ∧ key record = id := by
  obtain ⟨row, member, same⟩ := List.any_eq_true.mp here
  obtain ⟨record, present, inScope, keyed⟩ := shown.stored row member
  exact ⟨record, present, inScope, keyed.trans (beq_iff_eq.mp same)⟩

theorem matching_pos {s : Store} {q : String} {record : Record}
    (present : record ∈ (records.table s).rows) (listed : records.listed platform q record)
    : 0 < records.matching platform s q :=
  List.countP_pos_iff.mpr ⟨record, present, listed⟩

/-- The one row that a statement on its key selects. -/
theorem only_key {s : Store} {record : Record} (present : record ∈ (records.table s).rows)
    : ∀ other ∈ (records.table s).rows, (key other == key record) = true ↔ other = record := by
  intro other member
  rw [beq_iff_eq]
  exact ⟨(records.table s).eq_of_key_eq member present, fun same => congrArg key same⟩

/-- Of different rows one is taken out. -/
theorem length_without {shown : List Row} (distinct : (shown.map rows.id).Nodup) {id : Nat}
    (here : shown.any (fun row => rows.id row == id))
    : (shown.filter (fun row => rows.id row != id)).length = shown.length - 1 := by
  have member : id ∈ shown.map rows.id := by
    obtain ⟨row, displayed, same⟩ := List.any_eq_true.mp here
    exact List.mem_map.mpr ⟨row, displayed, beq_iff_eq.mp same⟩
  have once : shown.countP (fun row => rows.id row == id) = 1 := by
    have single := List.count_eq_one_of_mem distinct member
    rwa [List.count, List.countP_map] at single
  have split : shown.length = _ := List.length_eq_countP_add_countP (fun row => rows.id row == id)
  rw [← List.countP_eq_length_filter]
  simp only [once, decide_not, Bool.decide_eq_true] at split
  simp only [bne]
  omega

section Steps

variable (serves : Serves records rows platform session) {listing : Listing Row}

include serves

/-- A loaded page shows rows of the table, and as many as the server has for it. -/
theorem Serves.load (signedIn : SignedIn session listing.store) (number : 1 ≤ listing.page.page)
    (env : Env)
    : Shown records rows session (rows.load platform session env listing)
      ∧ (records.pager platform (rows.load platform session env listing)).Loaded := by
  obtain ⟨index, page⟩ := Nat.exists_eq_add_of_le' number
  obtain ⟨body, listed, answered, received, distinct, stored, length⟩ :=
    serves.list signedIn env listing.page.q index
  have loaded : rows.load platform session env listing
      = { page := { listing.page with rows := listed }, store := listing.store } := by
    simp only [RowsPage.load, page, answered, Response.succeeded, if_true, received,
      Option.getD_some]
  rw [loaded]
  refine ⟨⟨signedIn, number, distinct, stored⟩, ?_⟩
  simp only [Pager.Loaded, pager, length, page, Nat.add_sub_cancel]

/-- A change of the search or of the page number shows a page that leads on: a fresh page of the
list, or the page as it was.
-/
theorem Serves.rerender (shown : Shown records rows session listing) (env : Env)
    {page : SearchPage Row} (number : 1 ≤ page.page) (same : page.rows = listing.page.rows)
    : Shown records rows session (rows.rerender platform session env listing page)
      ∧ ((records.pager platform listing).Reachable
        → (records.pager platform
            (rows.rerender platform session env listing page)).Reachable) := by
  rw [RowsPage.rerender]
  split
  · next unchanged =>
    obtain ⟨⟨listed, q, index⟩, store⟩ := listing
    obtain ⟨pageRows, pageQ, pageIndex⟩ := page
    obtain ⟨rfl, rfl⟩ : pageQ = q ∧ pageIndex = index := unchanged
    obtain rfl : pageRows = listed := same
    exact ⟨shown, id⟩
  · have turned : SignedIn session { listing with page := page }.store := shown.signedIn
    obtain ⟨fresh, loaded⟩ := serves.load turned number env
    exact ⟨fresh, fun _ => loaded.reachable fresh.number⟩

/-- A created row is new to the page, and in front. Whether the next page can still be reached
depends on whether the search finds the row; a refusal changes nothing.
-/
theorem Serves.step_create (shown : Shown records rows session listing) (env : Env) (form : Form)
    : Shown records rows session (rows.step platform session listing (.create env form))
      ∧ ((records.pager platform listing).Reachable
        → ((records.pager platform
              (rows.step platform session listing (.create env form))).Reachable
          ↔ records.KeepsNext rows platform listing (.create env form))) := by
  simp only [RowsPage.step, KeepsNext]
  cases posted : rows.create form with
  | none =>
      exact ⟨shown, fun reachable =>
        iff_of_true reachable (fun some => absurd some Bool.false_ne_true)⟩
  | some post =>
      have served := serves.create shown.signedIn env posted
      simp only [Option.isSome_some, true_implies]
      cases inserted : records.inserts platform env listing.store form with
      | none =>
          obtain ⟨response, answered, refused⟩ := served.1 inserted
          simp only [answered, refused, Option.mem_def, reduceCtorEq, false_imp_iff, imp_true_iff]
          exact ⟨shown, fun reachable => iff_true_intro reachable⟩
      | some new =>
          obtain ⟨response, s', row, answered, saved, keyed, grown, inScope, signedIn⟩ :=
            served.2 new inserted
          have fresh : ∀ record ∈ (records.table listing.store).rows, key record ≠ rows.id row :=
            fun record present => keyed ▸ (records.table listing.store).key_ne_nextKey present
          have counted : records.matching platform s' listing.page.q
              = records.matching platform listing.store listing.page.q
                + (records.listed platform listing.page.q
                  (new.build (records.table listing.store).nextKey)).toNat := by
            rw [matching, matching, grown, Table.countP_insert]
            cases records.listed platform listing.page.q _ <;> rfl
          simp only [answered, saved, Option.mem_some, forall_eq']
          refine ⟨⟨signedIn, shown.number, ?_, ?_⟩, ?_⟩
          · refine List.nodup_cons.mpr ⟨?_, shown.distinct⟩
            intro again
            obtain ⟨other, member, same⟩ := List.mem_map.mp again
            obtain ⟨record, present, _, here⟩ := shown.stored other member
            exact fresh record present (here.trans same)
          · rw [grown]
            intro other member
            rcases List.mem_cons.mp member with rfl | earlier
            · exact ⟨_, (Table.mem_insert _).mpr (Or.inr rfl), inScope,
                (new.keyed _).trans keyed.symm⟩
            · obtain ⟨record, present, found⟩ := shown.stored other earlier
              exact ⟨record, (Table.mem_insert _).mpr (Or.inl present), found⟩
          · intro reachable
            rw [← Pager.reachable_prepend_iff shown.number reachable]
            simp only [pager, Pager.prepend, counted, List.length_cons]

/-- An edited row stays where it is. Whether the next page can still be reached depends on whether
the search finds the row before and after.
-/
theorem Serves.step_update (shown : Shown records rows session listing) (env : Env) (id : Nat)
    (form : Form)
    : Shown records rows session (rows.step platform session listing (.update env id form))
      ∧ ((records.pager platform listing).Reachable
        → ((records.pager platform
              (rows.step platform session listing (.update env id form))).Reachable
          ↔ records.KeepsNext rows platform listing (.update env id form))) := by
  simp only [RowsPage.step, KeepsNext]
  cases here : rows.shows listing.page id with
  | false =>
      exact ⟨shown, fun reachable =>
        iff_of_true reachable (fun some => absurd some Bool.false_ne_true)⟩
  | true =>
      cases put : rows.update id form with
      | none =>
          exact ⟨shown, fun reachable =>
            iff_of_true reachable (fun _ some => absurd some Bool.false_ne_true)⟩
      | some request =>
          obtain ⟨record, present, inScope, rfl⟩ := shown.record here
          have found : (records.table listing.store).find? (key record) = some record :=
            Table.find?_of_mem _ present
          have served := serves.update shown.signedIn present inScope env put
          simp only [Option.isSome_some, true_implies, found, Option.mem_some, forall_eq']
          cases revised : records.revises platform env listing.store record form with
          | none =>
              obtain ⟨response, answered, refused⟩ := served.1 revised
              simp only [answered, refused, Option.mem_def, reduceCtorEq, false_imp_iff,
                imp_true_iff]
              exact ⟨shown, fun reachable => iff_true_intro reachable⟩
          | some change =>
              obtain ⟨response, s', row, answered, saved, keyed, written, stays, signedIn⟩ :=
                served.2 change revised
              have kept := serves.replace listing.page.rows keyed
              have counted : records.matching platform s' listing.page.q
                  = records.matching platform listing.store listing.page.q
                    - (records.listed platform listing.page.q record).toNat
                    + (records.listed platform listing.page.q (change.apply record)).toNat := by
                rw [matching, matching, written]
                exact Table.countP_update_one _ present (only_key present) change _
              simp only [answered, saved, Option.mem_some, forall_eq']
              refine ⟨⟨signedIn, shown.number, kept ▸ shown.distinct, ?_⟩, ?_⟩
              · rw [written]
                intro other member
                have mapped : rows.id other ∈ listing.page.rows.map rows.id :=
                  kept ▸ List.mem_map_of_mem member
                obtain ⟨earlier, displayed, same⟩ := List.mem_map.mp mapped
                obtain ⟨old, stored, scope, oldKey⟩ := shown.stored earlier displayed
                have rekeyed : key (if key old == key record then change.apply old else old)
                    = key old := by
                  split
                  · exact change.keeps old
                  · rfl
                refine ⟨_, (Table.mem_update _).mpr ⟨old, stored, rfl⟩, ?_,
                  rekeyed.trans (oldKey.trans same)⟩
                split
                · next selected =>
                  obtain rfl := (only_key present old stored).mp selected
                  exact stays
                · exact scope
              · intro reachable
                have length : (rows.replace (key record) row listing.page.rows).length
                    = listing.page.rows.length := by
                  simpa using congrArg List.length kept
                rw [← Pager.reachable_replace_iff shown.number reachable (matching_pos present)]
                simp only [pager, Pager.replace, counted, length]

/-- A deleted row is gone from the page, which then is one row short, and so is what the search
finds if it has found the row.
-/
theorem Serves.step_destroy (shown : Shown records rows session listing) (env : Env) (id : Nat)
    : Shown records rows session (rows.step platform session listing (.destroy env id))
      ∧ ((records.pager platform listing).Reachable
        → ((records.pager platform (rows.step platform session listing (.destroy env id))).Reachable
          ↔ records.KeepsNext rows platform listing (.destroy env id))) := by
  simp only [RowsPage.step, KeepsNext]
  cases here : rows.shows listing.page id with
  | false =>
      exact ⟨shown, fun reachable =>
        iff_of_true reachable (fun some => absurd some Bool.false_ne_true)⟩
  | true =>
      obtain ⟨record, present, inScope, rfl⟩ := shown.record here
      have found : (records.table listing.store).find? (key record) = some record :=
        Table.find?_of_mem _ present
      obtain ⟨response, s', answered, succeeded, deleted, signedIn⟩ :=
        serves.destroy shown.signedIn present inScope env
      have counted : records.matching platform s' listing.page.q
          = records.matching platform listing.store listing.page.q
            - (records.listed platform listing.page.q record).toNat := by
        rw [matching, matching, deleted]
        exact Table.countP_delete_one _ present (only_key present) _
      simp only [answered, succeeded, if_true, true_implies, found, Option.mem_some, forall_eq']
      refine ⟨⟨signedIn, shown.number, shown.distinct.sublist (List.filter_sublist.map _), ?_⟩, ?_⟩
      · rw [deleted]
        intro other member
        obtain ⟨displayed, others⟩ := List.mem_filter.mp member
        obtain ⟨old, stored, scope, oldKey⟩ := shown.stored other displayed
        refine ⟨old, (Table.mem_delete _).mpr ⟨stored, ?_⟩, scope, oldKey⟩
        simpa [oldKey] using others
      · intro reachable
        have length := length_without shown.distinct here
        have positive : 0 < (records.pager platform listing).size := Nat.succ_pos 24
        rw [← Pager.reachable_remove_iff shown.number reachable positive (matching_pos present)]
        simp only [pager, Pager.remove, counted, length]

theorem Serves.step (shown : Shown records rows session listing) (action : RowAction Form)
    : Shown records rows session (rows.step platform session listing action)
      ∧ ((records.pager platform listing).Reachable
        → ((records.pager platform (rows.step platform session listing action)).Reachable
          ↔ records.KeepsNext rows platform listing action)) := by
  cases action with
  | turn env event =>
      have number : 1 ≤ (listing.page.act event).page := by
        have here := shown.number
        cases event with
        | search q => exact Nat.le_refl 1
        | prev | next =>
            simp only [SearchPage.act]
            split
            · dsimp only
              omega
            · exact here
      obtain ⟨after, kept⟩ := serves.rerender shown env number (listing.page.act_rows event)
      exact ⟨after, fun reachable => iff_true_intro (kept reachable)⟩
  | create env form => exact serves.step_create shown env form
  | update env id form => exact serves.step_update shown env id form
  | destroy env id => exact serves.step_destroy shown env id

/-- Later pages can be reached in every state of a run exactly when every accepted write of the
run is one that the pager allows.
-/
theorem Serves.forall_nextReachable_iff {store : Store} (signedIn : SignedIn session store)
    (env : Env) (actions : List (RowAction Form))
    : (∀ reached ∈ states (rows.step platform session) (rows.mount platform session env store)
            actions,
          records.NextReachable platform reached)
      ↔ EachStep (rows.step platform session) (records.KeepsNext rows platform)
          (rows.mount platform session env store) actions := by
  have opened : SignedIn session (Listing.mk ({} : SearchPage Row) store).store := signedIn
  obtain ⟨shown, loaded⟩ := serves.load opened (Nat.le_refl 1) env
  simp only [nextReachable_iff]
  refine forall_states_iff (Shown records rows session) shown (loaded.reachable shown.number) ?_ ?_
    actions
  · exact fun listing action here => (serves.step here action).1
  · exact fun listing action here reachable => (serves.step here action).2 reachable

end Steps

end RowsTable

end LibraryManagement
