import FluentSql.Proofs.Growth

/-!
# Which call wrote a placeholder, and which call bound its value

A ledger is kept beside a builder.  After every call it notes what the call added to the text and
to the bound values, which it reads off the states before and after the call.  From the ledger each
character of the statement gets a mark, the number of the call that wrote it and the number of
placeholders which that call had written before; and each bound value gets one, the number of the
call that bound it and its place among the values of that call.  The marks of the placeholders are
those of the values.

## Main definitions

* `Piece`, `Ledger` — what one call added, and what all of them did.
* `Ledger.enter`, `Ledger.ofRun` — the ledger after one more call, and after all calls.
* `Ledger.letters`, `Ledger.slots` — the marks of the characters and of the bound values.
* `Ledger.Accounts` — the ledger agrees with the statement.

## Main results

* `Ledger.tracks_enter` — one call keeps the ledger true.
* `Ledger.accounts_ofRun` — **each placeholder was written by the call that bound its value.**
-/

namespace FluentSql

open Placeholder

/-- What one call added to a statement. -/
structure Piece where
  /-- The number of the call. -/
  call : Nat
  verb : Verb
  text : String
  params : List Value

/-- What the calls added to the statement there is. -/
structure Ledger where
  /-- The text in front, written by the last definition of a view. -/
  header : Option Piece
  /-- What was added at the end, call by call. -/
  body : List Piece

namespace Piece

/-- The text with its marks: the call, and the placeholders it had written before. -/
def letters (p : Piece) : List (Char × Nat × Nat) :=
  (numbered none 0 p.text.toList).map fun c => (c.1, p.call, c.2)

/-- The marks of the values: the call, and the place among its values. -/
def slots (p : Piece) : List (Nat × Nat) := (List.range p.params.length).map fun k => (p.call, k)

end Piece

namespace Ledger

/-- The ledger without calls. -/
protected def empty : Ledger := ⟨none, []⟩

/-- The pieces of the statement, from its beginning to its end. -/
def pieces (l : Ledger) : List Piece := l.header.toList ++ l.body

/-- The text of the statement with its marks. -/
def letters (l : Ledger) : List (Char × Nat × Nat) := l.pieces.flatMap Piece.letters

/-- The marks of the bound values. -/
def slots (l : Ledger) : List (Nat × Nat) := l.pieces.flatMap Piece.slots

/-- The text at the end of a statement that was not there before. -/
def addedText (before after : Builder) : String :=
  String.ofList (after.statement.body.toList.drop before.statement.body.toList.length)

/-- The values at the end of the bound values that were not there before. -/
def addedParams (before after : Builder) : List Value := after.params.drop before.params.length

/-- The ledger after one more call.  A call that leaves an error has added nothing, and one that
drops the statement drops the ledger. -/
def enter (l : Ledger) (call : Nat) (v : Verb) (before after : Builder) : Ledger :=
  if after.hasError then l
  else if before.restarts v then ⟨none, [⟨call, v, after.statement.body, after.params⟩]⟩
  else if v.isView then
    { l with header := some ⟨call, v, after.statement.header, addedParams before after⟩ }
  else { l with body := l.body ++ [⟨call, v, addedText before after, addedParams before after⟩] }

/-- The ledger after further calls, the first of which has a number. -/
def follow (b : Builder) (call : Nat) (l : Ledger) : List Verb → Ledger
  | [] => l
  | v :: vs => follow (b.run v) (call + 1) (l.enter call v b (b.run v)) vs

/-- The ledger of the calls of a new builder. -/
def ofRun (dialect : Dialect) (options : Options) (vs : List Verb) : Ledger :=
  follow (.new dialect options) 0 .empty vs

/-! ### The ledger agrees with the statement -/

/-- The ledger agrees with a builder after some calls. -/
structure Accounts (l : Ledger) (calls : List Verb) (b : Builder) : Prop where
  /-- The marked characters are the text. -/
  text : l.letters.map Prod.fst = b.text.toList
  /-- The values of the pieces are the bound values. -/
  params : l.pieces.flatMap Piece.params = b.params
  /-- A piece belongs to the call with its number, which carries its values. -/
  calls : ∀ p ∈ l.pieces, calls[p.call]? = some p.verb ∧ p.params = p.verb.values
  /-- Each placeholder bears the mark of its value. -/
  owners : Placeholder.owners none l.letters = l.slots
  /-- There are as many placeholders as bound values. -/
  count : Placeholder.count b.text = b.params.length

/-- What every call preserves: the ledger agrees with a builder after some calls, and if these are
clean then each piece holds the placeholders of its values. -/
structure Tracks (l : Ledger) (calls : List Verb) (b : Builder) : Prop where
  header : b.statement.header = String.join (l.header.toList.map Piece.text)
  body : b.statement.body = String.join (l.body.map Piece.text)
  view : ∀ p ∈ l.header, p.verb.isView = true
  params : b.params = l.body.flatMap Piece.params
  calls : ∀ p ∈ l.pieces, calls[p.call]? = some p.verb ∧ p.params = p.verb.values
  holds : (∀ p ∈ l.pieces, p.verb.IsClean) →
    (∀ p ∈ l.pieces, Holds p.params.length p.text) ∧ b.draft.HasCleanProjection

variable {l : Ledger} {calls : List Verb} {b b' : Builder} {v : Verb}

theorem values_of_isView (hv : v.isView = true) : v.values = [] := by
  cases v with
  | createView name ifNotExists => rfl
  | _ => cases hv

theorem isClean_of_isView (hv : v.isView = true) : v.IsClean := by
  cases v with
  | createView name ifNotExists => exact ⟨fun _ hs => (by cases hs), fun _ hs => (by cases hs)⟩
  | _ => cases hv

theorem tracks_new (dialect : Dialect) (options : Options) :
    Tracks .empty [] (.new dialect options) where
  header := rfl
  body := rfl
  view _ hp := by cases hp
  params := rfl
  calls _ hp := by cases hp
  holds _ := ⟨fun _ hp => (by cases hp), fun _ hs => (by cases hs)⟩

theorem getElem?_snoc {i : Nat} {w : Verb} (h : calls[i]? = some w) :
    (calls ++ [v])[i]? = some w := by
  obtain ⟨hi, -⟩ := List.getElem?_eq_some_iff.mp h
  rw [List.getElem?_append_left hi, h]

theorem getElem?_snoc_length : (calls ++ [v])[calls.length]? = some v := by
  rw [List.getElem?_append_right (Nat.le_refl _), Nat.sub_self]
  rfl

/-- A call that changes nothing about the draft may be left out of the ledger. -/
theorem tracks_of_draft_eq (h : Tracks l calls b) (hd : b'.draft = b.draft) :
    Tracks l (calls ++ [v]) b' := by
  have hs : b'.statement = b.statement := by rw [Builder.statement, hd, Builder.statement]
  refine ⟨hs ▸ h.header, hs ▸ h.body, h.view, ?_, fun p hp => ?_, fun hc => ?_⟩
  · rw [Builder.params, hs]
    exact h.params
  · exact ⟨getElem?_snoc (h.calls p hp).1, (h.calls p hp).2⟩
  · rw [hd]
    exact h.holds hc

/-- A statement taken up anew is one piece. -/
theorem tracks_restart (hview : b'.statement.view = none) (hparams : b'.params = v.values)
    (hholds : v.IsClean →
      Holds v.values.length b'.statement.body ∧ b'.draft.HasCleanProjection) :
    Tracks ⟨none, [⟨calls.length, v, b'.statement.body, b'.params⟩]⟩ (calls ++ [v]) b' where
  header := by rw [Statement.header, hview]; rfl
  body := by simp
  view _ hp := by cases hp
  params := by simp
  calls p hp := by
    cases List.mem_singleton.mp hp
    exact ⟨getElem?_snoc_length, hparams⟩
  holds hc := by
    obtain ⟨hbody, hprojection⟩ := hholds (hc _ (List.mem_singleton.mpr rfl))
    refine ⟨fun p hp => ?_, hprojection⟩
    cases List.mem_singleton.mp hp
    rw [hparams]
    exact hbody

theorem addedText_eq {t : String} (h : b'.statement.body = b.statement.body ++ t) :
    addedText b b' = t := by
  rw [addedText, h, String.toList_append, List.drop_left, String.ofList_toList]

theorem addedParams_eq {vs : List Value} (h : b'.params = b.params ++ vs) :
    addedParams b b' = vs := by
  rw [addedParams, h, List.drop_left]

/-- A call that adds at the end is one more piece. -/
theorem tracks_grow (h : Tracks l calls b) {t : String} (hg : Draft.Grows v b.draft t b'.draft)
    (hp : b'.params = b.params ++ v.values) (hv : v.isView = false) :
    Tracks { l with body := l.body ++ [⟨calls.length, v, addedText b b', addedParams b b'⟩] }
      (calls ++ [v]) b' := by
  have ht : addedText b b' = t := addedText_eq hg.body
  have hvs : addedParams b b' = v.values := addedParams_eq hp
  have hpieces : ∀ p, p ∈ l.header.toList ++ (l.body ++ [⟨calls.length, v, t, v.values⟩]) →
      p ∈ l.pieces ∨ p = ⟨calls.length, v, t, v.values⟩ := by
    intro p hm
    rw [← List.append_assoc, List.mem_append, List.mem_singleton] at hm
    exact hm
  rw [ht, hvs]
  refine ⟨?_, ?_, h.view, ?_, fun p hm => ?_, fun hc => ?_⟩
  · -- the text in front is not touched
    exact (hg.header hv).trans h.header
  · show b'.draft.statement.body = _
    rw [hg.body, List.map_append, String.join_append, ← h.body]
    simp [Builder.statement]
  · rw [hp, h.params, List.flatMap_append, List.flatMap_singleton]
  · rcases hpieces p hm with hold | rfl
    · exact ⟨getElem?_snoc (h.calls p hold).1, (h.calls p hold).2⟩
    · exact ⟨getElem?_snoc_length, rfl⟩
  · have hclean : v.IsClean := hc ⟨calls.length, v, t, v.values⟩ (by simp [pieces])
    obtain ⟨hholds, hprojection⟩ := h.holds fun p hold => hc p (by
      rw [pieces, ← List.append_assoc]
      exact List.mem_append_left _ hold)
    refine ⟨fun p hm => ?_, hg.clean hclean hprojection⟩
    rcases hpieces p hm with hold | rfl
    · exact hholds p hold
    · exact hg.holds hclean hprojection

/-- The definition of a view takes the place of the piece in front. -/
theorem tracks_view (h : Tracks l calls b) {t : String} (hg : Draft.Grows v b.draft t b'.draft)
    (hp : b'.params = b.params ++ v.values) (hv : v.isView = true) :
    Tracks { l with header := some ⟨calls.length, v, b'.statement.header, addedParams b b'⟩ }
      (calls ++ [v]) b' := by
  have hnone : v.values = [] := values_of_isView hv
  have hvs : addedParams b b' = [] := by rw [addedParams_eq hp, hnone]
  have ht : t = "" := hg.view hv
  have hpieces : ∀ p, p ∈ ⟨calls.length, v, b'.statement.header, []⟩ :: l.body →
      p = ⟨calls.length, v, b'.statement.header, []⟩ ∨ p ∈ l.pieces := by
    intro p hm
    rcases List.mem_cons.mp hm with rfl | hold
    · exact Or.inl rfl
    · exact Or.inr (List.mem_append_right _ hold)
  rw [hvs]
  refine ⟨by simp, ?_, fun p hm => ?_, ?_, fun p hm => ?_, fun hc => ?_⟩
  · have hbody := hg.body
    rw [ht, String.append_empty] at hbody
    exact hbody.trans h.body
  · cases hm
    exact hv
  · rw [hp, hnone, List.append_nil, h.params]
  · rcases hpieces p hm with rfl | hold
    · exact ⟨getElem?_snoc_length, hnone.symm⟩
    · exact ⟨getElem?_snoc (h.calls p hold).1, (h.calls p hold).2⟩
  · -- the old piece in front need not be asked about, since the definition of a view is clean
    have hold : ∀ p ∈ l.pieces, p.verb.IsClean := by
      intro p hm
      rcases List.mem_append.mp hm with hfront | hbody
      · exact isClean_of_isView (h.view p (Option.mem_toList.mp hfront))
      · exact hc p (List.mem_cons_of_mem _ hbody)
    obtain ⟨hholds, hprojection⟩ := h.holds hold
    refine ⟨fun p hm => ?_, hg.clean (isClean_of_isView hv) hprojection⟩
    rcases hpieces p hm with rfl | hm
    · exact b'.statement.clean_header
    · exact hholds p hm

/-- **One call keeps the ledger true.** -/
theorem tracks_enter (h : Tracks l calls b) (v : Verb) :
    Tracks (l.enter calls.length v b (b.run v)) (calls ++ [v]) (b.run v) := by
  -- with an error nothing was written; without one the step says what was
  cases he : (b.run v).error with
  | some e =>
    rw [enter, if_pos (by rw [Builder.hasError, he]; rfl)]
    exact tracks_of_draft_eq h (Builder.draft_run_of_error he)
  | none =>
    have hstep := b.step_run v
    rw [enter, if_neg (by rw [Builder.hasError, he]; exact Bool.false_ne_true)]
    generalize b.run v = b' at hstep he ⊢
    cases hstep with
    | opened ho hd =>
      obtain ⟨hview, hparams⟩ := Opening.fresh_draft hd
      rw [if_pos (Builder.restarts_of_opens ho)]
      refine tracks_restart hview hparams fun hc => ?_
      have hholds := Opening.holds_draft hc hd
      rw [← Statement.body_of_view_eq_none hview] at hholds
      exact hholds
    | reset =>
      rw [if_pos (by rfl)]
      exact tracks_restart rfl rfl fun _ => ⟨holds_empty, fun _ hs => (by cases hs)⟩
    | edited ho hv hb hd =>
      obtain ⟨t, hg⟩ := Draft.grows_edit ho hv hd
      have hp := Builder.params_edit ho hd
      rw [if_neg (by rw [Builder.restarts_eq_opens hv, ho]; exact Bool.false_ne_true)]
      split
      · exact tracks_view h hg hp ‹_›
      · exact tracks_grow h hg hp (Bool.of_not_eq_true ‹_›)
    | setError message =>
      rw [if_neg (by exact Bool.false_ne_true), if_neg (by exact Bool.false_ne_true)]
      have hd : (b.setError message).draft = b.draft := by
        rw [Builder.setError]
        split <;> rfl
      refine tracks_grow (t := "") h ?_ ?_ rfl
      · rw [hd]
        exact ⟨String.append_empty.symm, fun _ _ => holds_empty, fun _ hd => hd, fun _ => rfl,
          fun _ => rfl⟩
      · rw [Builder.params, Builder.statement, hd]
        exact (List.append_nil _).symm
    | refused ho he' => cases he
    | failed ho hv hb he' => cases he
    | frozen ho hv he' =>
      rw [he'] at he
      cases he

/-- Any number of calls keeps the ledger true. -/
theorem tracks_follow (h : Tracks l calls b) (vs : List Verb) :
    Tracks (follow b calls.length l vs) (calls ++ vs) (b.runAll vs) := by
  induction vs generalizing l calls b with
  | nil =>
    rw [List.append_nil]
    exact h
  | cons v vs ih =>
    have hnext := ih (tracks_enter h v)
    rw [List.length_append, List.append_assoc] at hnext
    exact hnext

end Ledger

/-! ### The marks -/

namespace Piece

theorem map_fst_letters (p : Piece) : p.letters.map Prod.fst = p.text.toList := by
  rw [letters, List.map_map]
  exact map_fst_numbered none 0 p.text.toList

/-- A piece that holds the placeholders of its values marks them alike. -/
theorem owners_letters {p : Piece} (h : Holds p.params.length p.text) :
    owners none p.letters = p.slots := by
  rw [letters, owners_map, owners_numbered, h.2, ← List.range_eq_range']
  rfl

/-- The marked characters of several pieces are their text. -/
theorem map_fst_flatMap (ps : List Piece) :
    (ps.flatMap letters).map Prod.fst = (String.join (ps.map text)).toList := by
  rw [String.toList_join, List.map_flatMap, List.flatMap_map]
  simp only [map_fst_letters]

/-- Several pieces that hold the placeholders of their values mark them alike. -/
theorem owners_flatMap {ps : List Piece} (h : ∀ p ∈ ps, Holds p.params.length p.text) :
    owners none (ps.flatMap letters) = ps.flatMap slots := by
  induction ps with
  | nil => rfl
  | cons p ps ih =>
    have hp := h p List.mem_cons_self
    rw [List.flatMap_cons, List.flatMap_cons, owners_append, map_fst_letters, owners_letters hp,
      hp.1, ih fun q hq => h q (List.mem_cons_of_mem p hq)]

theorem length_flatMap_slots (ps : List Piece) :
    (ps.flatMap slots).length = (ps.flatMap params).length := by
  induction ps with
  | nil => rfl
  | cons p ps ih =>
    rw [List.flatMap_cons, List.flatMap_cons, List.length_append, List.length_append, ih, slots,
      List.length_map, List.length_range]

end Piece

namespace Ledger

variable {l : Ledger} {calls : List Verb} {b : Builder}

/-- A ledger that is kept true, of clean calls, agrees with the statement. -/
theorem accounts_of_tracks (h : Tracks l calls b) (hc : ∀ p ∈ l.pieces, p.verb.IsClean) :
    Accounts l calls b := by
  obtain ⟨hholds, -⟩ := h.holds hc
  have htext : l.letters.map Prod.fst = b.text.toList := by
    rw [letters, Piece.map_fst_flatMap, pieces, List.map_append, String.join_append, ← h.header,
      ← h.body, ← Statement.render_eq, Builder.text]
  have hparams : l.pieces.flatMap Piece.params = b.params := by
    rw [pieces, List.flatMap_append, ← h.params]
    cases hheader : l.header with
    | none => rfl
    | some p =>
      -- the piece in front belongs to the definition of a view, which carries no values
      have hm : p ∈ l.pieces := List.mem_append_left _ (by rw [hheader]; exact .head _)
      have hnone : p.params = [] := by
        rw [(h.calls p hm).2, values_of_isView (h.view p hheader)]
      rw [Option.toList_some, List.flatMap_singleton, hnone, List.nil_append]
  have howners : owners none l.letters = l.slots := Piece.owners_flatMap hholds
  refine ⟨htext, hparams, h.calls, howners, ?_⟩
  rw [count, ← htext, ← length_owners, howners, slots, Piece.length_flatMap_slots, hparams]

/-- **Each placeholder was written by the call that bound its value.**  Whatever is called on a new
builder, in any state and with any errors on the way: if the texts that the pieces of the statement
pass on leave no quote open and hold no placeholders of their own, then there are as many
placeholders as bound values, and each placeholder belongs to the call, and in it to the value, that
its value comes from. -/
theorem accounts_ofRun (dialect : Dialect) (options : Options) (vs : List Verb)
    (hclean : ∀ p ∈ (ofRun dialect options vs).pieces, p.verb.IsClean) :
    Accounts (ofRun dialect options vs) vs ((Builder.new dialect options).runAll vs) := by
  have h := tracks_follow (tracks_new dialect options) vs
  rw [List.nil_append] at h
  exact accounts_of_tracks h hclean

/-- A view of a union whose names and texts are full of quotes and question marks, after a call that
fails. -/
def viewOfUnion : List Verb :=
  [.start (.update (.named "users") []),
    .select (.named "us?er`s") [.column "na'me"],
    .filter ⟨[.condition (.compare (.column "i`d?") .member (.list [.int64 1, .null])),
      .connective .and, .condition (.raw "(note = 'why?')")], none⟩,
    .createView "v?" false,
    .combineSelect .unionAll (.named "guests"),
    .filter ⟨[.condition (.compare (.column "id") .equal (.value (.text "?")))], none⟩]

theorem accounts_ofRun_viewOfUnion :
    Accounts (ofRun .sqlite .default viewOfUnion) viewOfUnion
        ((Builder.new .sqlite .default).runAll viewOfUnion) ∧
      (ofRun .sqlite .default viewOfUnion).slots = [(2, 0), (2, 1), (5, 0)] :=
  ⟨accounts_ofRun .sqlite .default viewOfUnion (by decide), by decide⟩

end Ledger

end FluentSql
