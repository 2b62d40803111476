import Testbench.Proofs.Json.Extent
import Testbench.Proofs.Json.Path

/-!
# Documents inside of documents

What a text means does not depend on where it stands. So the text of an object or of an array,
taken out of a document, is a document of the same mode, and a path leads to the same text in it as
the joined path does in the whole.

* `Node.unplaced` : a tree without the places of its parts.
* `Node.get?_joinPath` : a joined path leads on from the node at the first one.
* `Grammar.Value.carried` : **a value is derived of its text wherever that stands**, and is the same
  there but for the places.
* `Grammar.Value.of_leads` : what is found in a derived tree is derived itself.
* `Document.get?_subdocument` : **queries compose through the text of a container.**
-/

set_option autoImplicit false

namespace Testbench.Json

/-! ## Trees without places -/

/-- A piece of source as if it were all of the source. -/
def Slice.unplaced (s : Slice) : Slice := ⟨0, byteLength s.text, s.text⟩

@[simp] theorem Slice.text_unplaced (s : Slice) : s.unplaced.text = s.text := by
  have h := Slice.text_of_append 0 s.text []
  rw [Nat.zero_add, List.append_nil] at h
  exact h

def Name.unplaced (name : Name) : Name := ⟨name.slice.unplaced, name.quote⟩

@[simp] theorem Name.text_unplaced (name : Name) : name.unplaced.text = name.text := by
  simp [Name.text, Name.unplaced]

namespace Node

mutual

/-- A tree without the places of its parts. -/
def unplaced : Node → Node
  | scalar kind quote slice => scalar kind quote slice.unplaced
  | object slice members => object slice.unplaced (membersUnplaced members)
  | array slice elements => array slice.unplaced (elementsUnplaced elements)

def membersUnplaced : List (Name × Node) → List (Name × Node)
  | [] => []
  | (name, value) :: more => (name.unplaced, value.unplaced) :: membersUnplaced more

def elementsUnplaced : List Node → List Node
  | [] => []
  | value :: more => value.unplaced :: elementsUnplaced more

end

theorem membersUnplaced_eq_map (members : List (Name × Node)) :
    membersUnplaced members = members.map (Prod.map Name.unplaced unplaced) := by
  induction members with
  | nil => rfl
  | cons m members ih => rw [membersUnplaced, ih, List.map_cons, Prod.map]

theorem elementsUnplaced_eq_map (elements : List Node) :
    elementsUnplaced elements = elements.map unplaced := by
  induction elements with
  | nil => rfl
  | cons value elements ih => rw [elementsUnplaced, ih, List.map_cons]

@[simp] theorem text_unplaced (n : Node) : n.unplaced.text = n.text := by
  cases n with
  | scalar kind => cases kind <;> simp [unplaced, text, slice]
  | object => simp [unplaced, text, slice]
  | array => simp [unplaced, text, slice]

theorem step?_unplaced (n : Node) (s : Step) : n.unplaced.step? s = (n.step? s).map unplaced := by
  cases n with
  | scalar => cases s <;> rfl
  | object slice members =>
    cases s with
    | element => rfl
    | member name =>
      have hfind : (membersUnplaced members).find? (fun m => m.1.text == name) =
          (members.find? fun m => m.1.text == name).map (Prod.map Name.unplaced unplaced) := by
        rw [membersUnplaced_eq_map, List.find?_map]
        simp
      simp only [unplaced, step?, member?, hfind, Option.map_map]
      rfl
  | array slice elements =>
    cases s with
    | member => rfl
    | element index =>
      simp only [unplaced, step?, element?, elementsUnplaced_eq_map, List.getElem?_map]

theorem at?_unplaced (n : Node) (steps : List Step) :
    n.unplaced.at? steps = (n.at? steps).map unplaced := by
  induction steps generalizing n with
  | nil => rfl
  | cons s steps ih =>
    rw [at?, at?, step?_unplaced]
    cases n.step? s with
    | none => rfl
    | some below => exact ih below

/-- What is asked of a tree does not depend on the places of its parts. -/
theorem get?_unplaced (n : Node) (path : List Char) : n.unplaced.get? path = n.get? path := by
  unfold get? lookup?
  cases readPath? path with
  | none => rfl
  | some steps =>
    simp only [Option.bind_some, at?_unplaced, Option.map_map]
    congr 1
    exact funext text_unplaced

theorem get?_congr {n n' : Node} (h : n.unplaced = n'.unplaced) (path : List Char) :
    n.get? path = n'.get? path := by
  rw [← get?_unplaced n, h, get?_unplaced]

/-- A joined path leads on from the node at the first one. -/
theorem get?_joinPath {n below : Node} {path : List Char} (h : n.lookup? path = some below)
    (more : List Char) : n.get? (joinPath path more) = below.get? more := by
  obtain ⟨steps, hread, hat⟩ := Option.bind_eq_some_iff.mp h
  unfold get? lookup?
  rw [readPath?_joinPath hread]
  cases readPath? more with
  | none => rfl
  | some steps' => simp [at?_append, hat]

/-- An object or an array. -/
def IsContainer : Node → Prop
  | scalar .. => False
  | object .. => True
  | array .. => True

instance : DecidablePred IsContainer := fun n =>
  match n with
  | scalar .. => isFalse not_false
  | object .. => isTrue trivial
  | array .. => isTrue trivial

end Node

namespace Grammar

open Cursor (Spans)

variable {mode : Mode} {room room' : Nat} {a b p q : Cursor}

/-! ## Derivations at other places -/

/-- The text between two places is of a kind, wherever it stands. -/
def Anywhere (kind : Cursor → Cursor → Prop) (a b : Cursor) : Prop :=
  ∃ s, Spans s a b ∧ ∀ p q, Spans s p q → kind p q

/-- The text between two places has a derivation wherever it stands, of what is the same as `x` but
for its places. -/
def Carried {α β : Type} (derives : Cursor → Cursor → α → Prop) (bare : α → β) (a b : Cursor)
    (x : α) : Prop :=
  ∃ s, Spans s a b ∧ ∀ p q, Spans s p q → ∃ y, derives p q y ∧ bare y = bare x

theorem anywhere_spans {s : List Char} (h : Spans s a b) : Anywhere (Spans s) a b :=
  ⟨s, h, fun _ _ hpq => hpq⟩

theorem Gap.anywhere (h : Gap a b) : Anywhere Gap a b := by
  obtain ⟨s, hs, hab⟩ := h
  exact ⟨s, hab, fun p q hpq => ⟨s, hs, hpq⟩⟩

theorem Anywhere.trans {kind kind' : Cursor → Cursor → Prop} {c : Cursor}
    (h : Anywhere kind a b) (h' : Anywhere kind' b c) :
    Anywhere (fun p r => ∃ q, kind p q ∧ kind' q r) a c := by
  obtain ⟨s, hs, hkind⟩ := h
  obtain ⟨s', hs', hkind'⟩ := h'
  refine ⟨_, hs.trans hs', fun p r hpr => ?_⟩
  obtain ⟨q, hp, hr⟩ := Spans.split hpr
  exact ⟨q, hkind p q hp, hkind' q r hr⟩

/-- What is carried stays so between texts of two kinds. -/
theorem Carried.between {α β : Type} {derives : Cursor → Cursor → α → Prop} {bare : α → β}
    {kind kind' : Cursor → Cursor → Prop} {c e : Cursor} {x : α} (ha : Anywhere kind a b)
    (h : Carried derives bare b c x) (hc : Anywhere kind' c e) :
    Carried (fun p t y => ∃ q r, kind p q ∧ derives q r y ∧ kind' r t) bare a e x := by
  obtain ⟨s, hs, hkind⟩ := ha
  obtain ⟨text, htext, hcarried⟩ := h
  obtain ⟨s', hs', hkind'⟩ := hc
  refine ⟨_, hs.trans (htext.trans hs'), fun p t hpt => ?_⟩
  obtain ⟨q, hpq, hqt⟩ := Spans.split hpt
  obtain ⟨r, hqr, hrt⟩ := Spans.split hqt
  obtain ⟨y, hy, hsame⟩ := hcarried q r hqr
  exact ⟨y, ⟨q, r, hkind p q hpq, hy, hkind' r t hrt⟩, hsame⟩

theorem unplaced_sliceTo {s : List Char} (h : Spans s a b) (h' : Spans s p q) :
    (p.sliceTo q).unplaced = (a.sliceTo b).unplaced := by
  rw [Slice.unplaced, Slice.unplaced, h.text_sliceTo, h'.text_sliceTo]

theorem Quoted.carried {slice : Slice} {quote : Quote} (h : Quoted mode a b slice quote) :
    Carried (Quoted mode · · · quote) Slice.unplaced a b slice := by
  obtain ⟨hd, hopen, hc, hs, hclose⟩ := h
  refine ⟨_, hopen.trans (hs.trans hclose), fun p q hpq => ?_⟩
  obtain ⟨c, hp, hpq⟩ := Spans.split hpq
  obtain ⟨e, htext, hq⟩ := Spans.split hpq
  exact ⟨_, .mk hd hp hc htext hq, unplaced_sliceTo hs htext⟩

theorem Label.carried {name : Name} (h : Label mode a b name) :
    Carried (Label mode) Name.unplaced a b name := by
  cases h with
  | quoted hq =>
    obtain ⟨s, hs, hcarried⟩ := hq.carried
    refine ⟨s, hs, fun p q hpq => ?_⟩
    obtain ⟨slice, hslice, hsame⟩ := hcarried p q hpq
    exact ⟨_, .quoted hslice, by rw [Name.unplaced, Name.unplaced, hsame]⟩
  | bare hne hname hs =>
    refine ⟨_, hs, fun p q hpq => ⟨_, .bare hne hname hpq, ?_⟩⟩
    rw [Name.unplaced, Name.unplaced, unplaced_sliceTo hs hpq]

/-- A scalar whose text is of its kind wherever it stands. -/
theorem carried_scalar {s : List Char} {kind : ScalarKind} (hs : Spans s a b)
    (hvalue : ∀ p q, Spans s p q → Value mode room' p q (.scalar kind .none (p.sliceTo q))) :
    Carried (Value mode room') Node.unplaced a b (.scalar kind .none (a.sliceTo b)) := by
  refine ⟨s, hs, fun p q hpq => ⟨_, hvalue p q hpq, ?_⟩⟩
  rw [Node.unplaced, Node.unplaced, unplaced_sliceTo hs hpq]

mutual

/-- **A value is derived of its text wherever that stands**, where there is no less room. -/
theorem Value.carried {room room' : Nat} {a b : Cursor} {node : Node} :
    Value mode room a b node → room ≤ room' → Carried (Value mode room') Node.unplaced a b node
  | .string hq, _ => by
    obtain ⟨s, hs, hcarried⟩ := hq.carried
    refine ⟨s, hs, fun p q hpq => ?_⟩
    obtain ⟨slice, hslice, hsame⟩ := hcarried p q hpq
    exact ⟨_, .string hslice, by rw [Node.unplaced, Node.unplaced, hsame]⟩
  | .number hn hs, _ => carried_scalar hs fun _ _ hpq => .number hn hpq
  | .boolean hw hs, _ => carried_scalar hs fun _ _ hpq => .boolean hw hpq
  | .null hs, _ => carried_scalar hs fun _ _ hpq => .null hpq
  | .emptyObject ha hg hb, hroom => by
    obtain ⟨room', rfl⟩ := Nat.exists_eq_add_of_lt hroom
    obtain ⟨s, hs, hkind⟩ := (anywhere_spans ha).trans (hg.anywhere.trans (anywhere_spans hb))
    refine ⟨s, hs, fun p t hpt => ?_⟩
    obtain ⟨q, hp, r, hq, ht⟩ := hkind p t hpt
    refine ⟨_, .emptyObject hp hq ht, ?_⟩
    rw [Node.unplaced, Node.unplaced, unplaced_sliceTo hs hpt]
  | .object ha hms hb, hroom => by
    obtain ⟨room', rfl⟩ := Nat.exists_eq_add_of_lt hroom
    have hms := hms.carried (Nat.le_add_right _ room')
    obtain ⟨s, hs, hcarried⟩ := hms.between (anywhere_spans ha) (anywhere_spans hb)
    refine ⟨s, hs, fun p t hpt => ?_⟩
    obtain ⟨members, ⟨q, r, hp, hq, ht⟩, hsame⟩ := hcarried p t hpt
    refine ⟨_, .object hp hq ht, ?_⟩
    rw [Node.unplaced, Node.unplaced, unplaced_sliceTo hs hpt, hsame]
  | .emptyArray ha hg hb, hroom => by
    obtain ⟨room', rfl⟩ := Nat.exists_eq_add_of_lt hroom
    obtain ⟨s, hs, hkind⟩ := (anywhere_spans ha).trans (hg.anywhere.trans (anywhere_spans hb))
    refine ⟨s, hs, fun p t hpt => ?_⟩
    obtain ⟨q, hp, r, hq, ht⟩ := hkind p t hpt
    refine ⟨_, .emptyArray hp hq ht, ?_⟩
    rw [Node.unplaced, Node.unplaced, unplaced_sliceTo hs hpt]
  | .array ha hes hb, hroom => by
    obtain ⟨room', rfl⟩ := Nat.exists_eq_add_of_lt hroom
    have hes := hes.carried (Nat.le_add_right _ room')
    obtain ⟨s, hs, hcarried⟩ := hes.between (anywhere_spans ha) (anywhere_spans hb)
    refine ⟨s, hs, fun p t hpt => ?_⟩
    obtain ⟨elements, ⟨q, r, hp, hq, ht⟩, hsame⟩ := hcarried p t hpt
    refine ⟨_, .array hp hq ht, ?_⟩
    rw [Node.unplaced, Node.unplaced, unplaced_sliceTo hs hpt, hsame]

theorem Member.carried {room room' : Nat} {a b : Cursor} {member : Name × Node} :
    Member mode room a b member → room ≤ room' →
    Carried (Member mode room') (Prod.map Name.unplaced Node.unplaced) a b member
  | .mk ha hl hc hs hf hv hh, hroom => by
    obtain ⟨s, hs₁, hname⟩ := hl.carried
    have hcolon := hc.anywhere.trans ((anywhere_spans hs).trans hf.anywhere)
    obtain ⟨t, hs₂, hvalue⟩ := (hv.carried hroom).between hcolon hh.anywhere
    obtain ⟨u, hs₀, hgap⟩ := ha.anywhere
    refine ⟨_, hs₀.trans (hs₁.trans hs₂), fun p z hpz => ?_⟩
    obtain ⟨q, hp, hqz⟩ := Spans.split hpz
    obtain ⟨r, hq, hrz⟩ := Spans.split hqz
    obtain ⟨name, hlabel, hsame⟩ := hname q r hq
    obtain ⟨node, ⟨w, x, ⟨r', hr', r'', hr'', hw⟩, hnode, hx⟩, hsame'⟩ := hvalue r z hrz
    exact ⟨(name, node), .mk (hgap p q hp) hlabel hr' hr'' hw hnode hx, Prod.ext hsame hsame'⟩

theorem Members.carried {room room' : Nat} {a b : Cursor} {members : List (Name × Node)} :
    Members mode room a b members → room ≤ room' →
    Carried (Members mode room') Node.membersUnplaced a b members
  | .last hm, hroom => by
    obtain ⟨s, hs, hcarried⟩ := hm.carried hroom
    refine ⟨s, hs, fun p q hpq => ?_⟩
    obtain ⟨member, hmember, hsame⟩ := hcarried p q hpq
    exact ⟨_, .last hmember, congrArg (fun m => [m]) hsame⟩
  | .more hm hc hms, hroom => by
    obtain ⟨s, hs, hfirst⟩ := hm.carried hroom
    obtain ⟨s', hs', hrest⟩ := hms.carried hroom
    refine ⟨_, hs.trans (hc.trans hs'), fun p t hpt => ?_⟩
    obtain ⟨q, hp, hqt⟩ := Spans.split hpt
    obtain ⟨r, hcomma, ht⟩ := Spans.split hqt
    obtain ⟨member, hmember, hsame⟩ := hfirst p q hp
    obtain ⟨members, hmembers, hsames⟩ := hrest r t ht
    exact ⟨_, .more hmember hcomma hmembers, List.cons_eq_cons.mpr ⟨hsame, hsames⟩⟩

theorem Element.carried {room room' : Nat} {a b : Cursor} {element : Node} :
    Element mode room a b element → room ≤ room' →
    Carried (Element mode room') Node.unplaced a b element
  | .mk ha hv hc, hroom => by
    obtain ⟨s, hs, hcarried⟩ := (hv.carried hroom).between ha.anywhere hc.anywhere
    refine ⟨s, hs, fun p t hpt => ?_⟩
    obtain ⟨node, ⟨q, r, hp, hnode, ht⟩, hsame⟩ := hcarried p t hpt
    exact ⟨node, .mk hp hnode ht, hsame⟩

theorem Elements.carried {room room' : Nat} {a b : Cursor} {elements : List Node} :
    Elements mode room a b elements → room ≤ room' →
    Carried (Elements mode room') Node.elementsUnplaced a b elements
  | .last he, hroom => by
    obtain ⟨s, hs, hcarried⟩ := he.carried hroom
    refine ⟨s, hs, fun p q hpq => ?_⟩
    obtain ⟨element, helement, hsame⟩ := hcarried p q hpq
    exact ⟨_, .last helement, congrArg (fun e => [e]) hsame⟩
  | .more he hc hes, hroom => by
    obtain ⟨s, hs, hfirst⟩ := he.carried hroom
    obtain ⟨s', hs', hrest⟩ := hes.carried hroom
    refine ⟨_, hs.trans (hc.trans hs'), fun p t hpt => ?_⟩
    obtain ⟨q, hp, hqt⟩ := Spans.split hpt
    obtain ⟨r, hcomma, ht⟩ := Spans.split hqt
    obtain ⟨element, helement, hsame⟩ := hfirst p q hp
    obtain ⟨elements, helements, hsames⟩ := hrest r t ht
    exact ⟨_, .more helement hcomma helements, List.cons_eq_cons.mpr ⟨hsame, hsames⟩⟩

end

/-! ## Parts of a document -/

/-- What is found in a derived tree is derived itself, where there is no more room. -/
theorem Value.of_leads {n below : Node} {steps : List Step} (hl : n.Leads steps below)
    (h : Value mode room a b n) : ∃ room' ≤ room, ∃ p q, Value mode room' p q below := by
  induction hl generalizing room a b with
  | here => exact ⟨room, Nat.le_refl room, a, b, h⟩
  | @member slice members name value below steps hm _ ih =>
    obtain ⟨-, room', hle, p, q, -, hv⟩ := h.exists_child (List.mem_map_of_mem hm)
    obtain ⟨room'', hle', hbelow⟩ := ih hv
    exact ⟨room'', Nat.le_trans hle' hle, hbelow⟩
  | @element slice elements index value below steps he _ ih =>
    obtain ⟨-, room', hle, p, q, -, hv⟩ :=
      h.exists_child (List.mem_map_of_mem (List.mem_of_getElem? he))
    obtain ⟨room'', hle', hbelow⟩ := ih hv
    exact ⟨room'', Nat.le_trans hle' hle, hbelow⟩

/-- The text of a container is all that it is derived of. -/
theorem Value.spans_text {n : Node} (h : Value mode room a b n) (hn : n.IsContainer) :
    Spans n.text a b := by
  have hslice : ∀ {s : List Char}, Spans s a b → Spans (a.sliceTo b).text a b := by
    intro s hs
    rwa [hs.text_sliceTo]
  cases h with
  | string => exact hn.elim
  | number => exact hn.elim
  | boolean => exact hn.elim
  | null => exact hn.elim
  | emptyObject ha hg hb =>
    obtain ⟨s, hs⟩ := ha.reaches.trans (hg.reaches.trans hb.reaches)
    exact hslice hs
  | object ha hms hb =>
    obtain ⟨s, hs⟩ := ha.reaches.trans (hms.reaches.trans hb.reaches)
    exact hslice hs
  | emptyArray ha hg hb =>
    obtain ⟨s, hs⟩ := ha.reaches.trans (hg.reaches.trans hb.reaches)
    exact hslice hs
  | array ha hes hb =>
    obtain ⟨s, hs⟩ := ha.reaches.trans (hes.reaches.trans hb.reaches)
    exact hslice hs

/-- The text of a container in a document is a document, with the same tree but for the places. -/
theorem Document.within {source : List Char} {root n : Node} (h : Document mode source root)
    {steps : List Step} (hn : root.at? steps = some n) (hc : n.IsContainer) :
    ∃ root', Document mode n.text root' ∧ root'.unplaced = n.unplaced := by
  obtain ⟨a, b, e, -, hv, -, -⟩ := h
  obtain ⟨room, hroom, p, q, hvalue⟩ := hv.of_leads (Node.leads_of_at? hn)
  obtain ⟨s, hs, hcarried⟩ := hvalue.carried hroom
  have htext : n.text = s := by
    have hall := (hvalue.spans_text hc).1
    rw [hs.1] at hall
    exact (List.append_cancel_right hall).symm
  have hspans : Spans s ⟨0, s⟩ ⟨byteLength s, []⟩ :=
    ⟨(List.append_nil s).symm, (Nat.zero_add _).symm⟩
  obtain ⟨root', hroot', hsame⟩ := hcarried _ _ hspans
  rw [htext]
  exact ⟨root', ⟨_, _, _, .refl _, hroot', .refl _, rfl⟩, hsame⟩

end Grammar

namespace Document

/-- **Queries compose through the text of a container.** Where a path leads to an object or to an
array, its text can be parsed in the same mode, and every path, well formed or not, leads to the
same text in it, or to none, as the joined path does in the whole document. -/
theorem get?_subdocument {mode : Mode} {source : String} {d : Document}
    (h : parse mode source = .ok d) {path : String} {n : Node}
    (hn : d.root.lookup? path.toList = some n) (hc : n.IsContainer) :
    ∃ text d', d.get? path = some text ∧ parse mode text = .ok d' ∧
      ∀ more : String,
        d'.get? more = d.get? (String.ofList (joinPath path.toList more.toList)) := by
  obtain ⟨root, hroot, rfl⟩ := Grammar.map_eq_ok_iff.mp h
  obtain ⟨steps, -, hat⟩ := Option.bind_eq_some_iff.mp hn
  obtain ⟨root', hroot', hsame⟩ := (Grammar.read_eq_ok_iff.mp hroot).within hat hc
  refine ⟨String.ofList n.text, ⟨mode, _, root'⟩, ?_, Grammar.map_eq_ok_iff.mpr ⟨root', ?_, rfl⟩,
    fun more => ?_⟩
  · rw [get?, Node.get?, hn]
    rfl
  · rw [String.toList_ofList]
    exact Grammar.read_eq_ok_iff.mpr hroot'
  · rw [get?, get?, String.toList_ofList, Node.get?_joinPath hn, Node.get?_congr hsame]

/-- An object in an array in an object, with bare names. -/
theorem get?_subdocument_bare :
    ∃ d text d', parse .relaxed " \x7ba: [0, \x7bb : 'x'\x7d]\x7d" = .ok d ∧
      d.get? "a[1]" = some text ∧ parse .relaxed text = .ok d' ∧ d'.get? "b" = some "x" ∧
      d'.get? "[b" = none := by
  have hparse : (parse .relaxed " \x7ba: [0, \x7bb : 'x'\x7d]\x7d").toOption.any (fun d =>
      (d.root.lookup? "a[1]".toList).any (fun n => decide n.IsContainer) &&
        decide (d.get? "a[1].b" = some "x") && decide (d.get? "a[1][b" = none)) = true := by
    decide +kernel
  cases h : parse .relaxed " \x7ba: [0, \x7bb : 'x'\x7d]\x7d" with
  | error e =>
    rw [h] at hparse
    cases hparse
  | ok d =>
    rw [h] at hparse
    simp only [Except.toOption, Option.any_some, Bool.and_eq_true, decide_eq_true_eq,
      Option.any_eq_true] at hparse
    obtain ⟨⟨⟨n, hn, hc⟩, hb⟩, hmalformed⟩ := hparse
    obtain ⟨text, d', htext, hd', hanswer⟩ := get?_subdocument h hn hc
    exact ⟨d, text, d', rfl, htext, hd', (hanswer "b").trans hb, (hanswer "[b").trans hmalformed⟩

end Document

end Testbench.Json
