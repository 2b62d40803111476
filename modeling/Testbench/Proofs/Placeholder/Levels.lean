import Testbench.Proofs.Placeholder.Completeness

/-!
# When a bound is reported

Expansion counts as it goes: how deep it is inside of bodies, and how many placeholders of one text
it has replaced. If values open nothing, what it reports can be read off the token before.

* `Found.Inside`, `level` : how deep a closed placeholder stands in others.
* `outermost`, `directly` : how many stand in no other one, and in a given one and no deeper.
* `Fits` : the bodies of a text, and theirs, keep within both bounds.
* `quiet_expandWithin_iff` : nothing is reported if the text fits.
* `fits_iff` : a text fits if its levels and numbers of placeholders do.
* `expand_reports_iff` : so a bound is reported from level `maxNesting` on, or for more than
  `maxSubstitutions` placeholders side by side.
* `tower` : placeholders in each other; `expand_reports_at_limit` : one of them, in which a bound is
  reported at level `maxNesting` itself, where no placeholder is deeper.
-/

set_option autoImplicit false

namespace Testbench.Placeholder

/-! ## Levels -/

/-- Of two closed placeholders of a text, the first stands in the body of the second. -/
def Found.Inside (p q : Found) : Prop :=
  q.before.length < p.before.length ∧ q.after.length < p.after.length

instance (p q : Found) : Decidable (p.Inside q) := inferInstanceAs (Decidable (_ ∧ _))

/-- One more than the number of closed placeholders of the text around this one. -/
def level (text : List Char) (p : Found) : Nat :=
  (placeholders text).countP (p.Inside ·) + 1

/-- The number of closed placeholders that stand in no other one. -/
def outermost (text : List Char) : Nat :=
  (placeholders text).countP (level text · = 1)

/-- The number of closed placeholders that stand in this one, and in no other one in it. -/
def directly (text : List Char) (q : Found) : Nat :=
  (placeholders text).countP fun p => p.Inside q ∧ level text p = level text q + 1

/-! ## A text in another one -/

/-- The placeholders of one text, put into another one by `F`, stand in each other as before, each
in `d` of the others besides, and none of those in them. -/
structure Embeds (F : Found → Found) (d : Nat) (others : List Found) (rest text : List Char) :
    Prop where
  perm : (placeholders text).Perm ((placeholders rest).map F ++ others)
  inside : ∀ p q : Found, (F p).Inside (F q) ↔ p.Inside q
  apart : ∀ r ∈ others, ∀ q ∈ placeholders rest, ¬ r.Inside (F q)
  around : ∀ p ∈ placeholders rest, others.countP ((F p).Inside ·) = d

section Embeds

variable {F : Found → Found} {d : Nat} {others : List Found} {rest text : List Char}

theorem Embeds.level_eq (h : Embeds F d others rest text) {p : Found} (hp : p ∈ placeholders rest) :
    level text (F p) = level rest p + d := by
  unfold level
  rw [h.perm.countP_eq, List.countP_append, List.countP_map, h.around p hp]
  simp only [Function.comp_def, h.inside]
  omega

theorem Embeds.directly_eq (h : Embeds F d others rest text) {q : Found}
    (hq : q ∈ placeholders rest) : directly text (F q) = directly rest q := by
  unfold directly
  have hothers : others.countP
      (fun p => p.Inside (F q) ∧ level text p = level text (F q) + 1) = 0 :=
    List.countP_eq_zero.mpr fun r hr => by simp [h.apart r hr q hq]
  rw [h.perm.countP_eq, List.countP_append, List.countP_map, hothers, Nat.add_zero]
  refine List.countP_congr fun p hp => ?_
  simp only [Function.comp_apply, decide_eq_true_eq, h.inside, h.level_eq hp, h.level_eq hq]
  exact and_congr_right fun _ => by omega

theorem Embeds.outermost_eq (h : Embeds F d others rest text) :
    outermost text =
      (placeholders rest).countP (level rest · + d = 1) + others.countP (level text · = 1) := by
  unfold outermost
  rw [h.perm.countP_eq, List.countP_append, List.countP_map]
  congr 1
  exact List.countP_congr fun p hp => by simp [h.level_eq hp]

end Embeds

/-- A text with nothing closed in front of it. -/
theorem embeds_precede {s rest text : List Char}
    (h : placeholders text = (placeholders rest).map (Found.precede s)) :
    Embeds (Found.precede s) 0 [] rest text where
  perm := by rw [h, List.append_nil]
  inside p q := by simp [Found.Inside, Found.precede]
  apart r hr := nomatch hr
  around p _ := rfl

/-- A placeholder of the body of the first placeholder, in the text of that. -/
def Found.inBody (after : List Char) (p : Found) : Found :=
  (p.follow ('\x7d' :: after)).precede ['$', '\x7b']

/-- A placeholder behind the first one, in the text of that. -/
def Found.inAfter (body : List Char) (p : Found) : Found :=
  p.precede ('$' :: '\x7b' :: (body ++ ['\x7d']))

theorem Found.IsIn.length_eq {text : List Char} {p : Found} (h : p.IsIn text) :
    text.length = p.before.length + p.body.length + p.after.length + 3 := by
  rw [h.1]
  simp only [List.length_append, List.length_cons]
  omega

theorem not_inside_first {body after : List Char} {p : Found} :
    ¬ Found.Inside ⟨[], body, after⟩ p :=
  fun h => Nat.not_lt_zero _ h.1

section Closed

variable {body : List Char} (after : List Char)

/-- What stands in the body of the first placeholder stands in that placeholder. -/
theorem inBody_inside (p : Found) : (p.inBody after).Inside ⟨[], body, after⟩ := by
  simp only [Found.Inside, Found.inBody, Found.precede, Found.follow, List.length_append,
    List.length_cons, List.length_nil]
  omega

theorem not_inBody_inside {p q : Found} (hp : p ∈ placeholders body) :
    ¬ (p.inBody after).Inside (q.inAfter body) := by
  have := (mem_placeholders_iff.mp hp).length_eq
  simp only [Found.Inside, Found.inBody, Found.inAfter, Found.precede, Found.follow,
    List.length_append, List.length_cons, List.length_nil]
  omega

theorem not_inAfter_inside_first {p : Found} (hp : p ∈ placeholders after) :
    ¬ (p.inAfter body).Inside ⟨[], body, after⟩ := by
  have := (mem_placeholders_iff.mp hp).length_eq
  simp only [Found.Inside, Found.inAfter, Found.precede]
  omega

theorem not_inAfter_inside {p q : Found} (hp : p ∈ placeholders after) :
    ¬ (p.inAfter body).Inside (q.inBody after) := by
  have := (mem_placeholders_iff.mp hp).length_eq
  simp only [Found.Inside, Found.inBody, Found.inAfter, Found.precede, Found.follow,
    List.length_append, List.length_cons]
  omega

theorem embeds_inBody (h : Closes 0 body) :
    Embeds (Found.inBody after) 1
      (⟨[], body, after⟩ :: (placeholders after).map (Found.inAfter body))
      body ('$' :: '\x7b' :: (body ++ '\x7d' :: after)) where
  perm := by rw [placeholders_closed h]; rfl
  inside p q := by simp [Found.Inside, Found.inBody, Found.precede, Found.follow]
  apart := by
    intro r hr q hq
    obtain rfl | hr := List.mem_cons.mp hr
    · exact not_inside_first
    · obtain ⟨p, hp, rfl⟩ := List.mem_map.mp hr
      exact not_inAfter_inside after hp
  around := by
    intro p hp
    have hnone : ((placeholders after).map (Found.inAfter body)).countP
        ((p.inBody after).Inside ·) = 0 := by
      rw [List.countP_map, List.countP_eq_zero]
      intro q _
      simp [not_inBody_inside after hp]
    rw [List.countP_cons, hnone]
    simp [inBody_inside]

theorem embeds_inAfter (h : Closes 0 body) :
    Embeds (Found.inAfter body) 0
      ((placeholders body).map (Found.inBody after) ++ [⟨[], body, after⟩])
      after ('$' :: '\x7b' :: (body ++ '\x7d' :: after)) where
  perm := by
    rw [placeholders_closed h, List.append_cons]
    exact List.perm_append_comm
  inside p q := by simp [Found.Inside, Found.inAfter, Found.precede]
  apart := by
    intro r hr q hq
    obtain hr | hr := List.mem_append.mp hr
    · obtain ⟨p, hp, rfl⟩ := List.mem_map.mp hr
      exact not_inBody_inside after hp
    · obtain rfl := List.mem_singleton.mp hr
      exact not_inside_first
  around := by
    intro p hp
    rw [List.countP_eq_zero]
    intro r hr
    obtain hr | hr := List.mem_append.mp hr
    · obtain ⟨r, -, rfl⟩ := List.mem_map.mp hr
      simp [not_inAfter_inside after hp]
    · obtain rfl := List.mem_singleton.mp hr
      simp [not_inAfter_inside_first after hp]

end Closed

/-! ## Numbers of a text with a closed placeholder in front -/

section Closed

variable {body : List Char} (h : Closes 0 body) (after : List Char)
include h

theorem forall_placeholders_closed {P : Found → Prop} :
    (∀ p ∈ placeholders ('$' :: '\x7b' :: (body ++ '\x7d' :: after)), P p) ↔
      (∀ p ∈ placeholders body, P (p.inBody after)) ∧ P ⟨[], body, after⟩ ∧
        ∀ p ∈ placeholders after, P (p.inAfter body) := by
  rw [placeholders_closed h]
  simp only [List.forall_mem_append, List.forall_mem_cons, List.forall_mem_map]
  rfl

omit h in
theorem level_first : level ('$' :: '\x7b' :: (body ++ '\x7d' :: after)) ⟨[], body, after⟩ = 1 := by
  rw [level, Nat.add_eq_right, List.countP_eq_zero]
  intro p _
  simp [not_inside_first]

theorem outermost_closed :
    outermost ('$' :: '\x7b' :: (body ++ '\x7d' :: after)) = outermost after + 1 := by
  have hbody : ((placeholders body).map (Found.inBody after)).countP
      (level ('$' :: '\x7b' :: (body ++ '\x7d' :: after)) · = 1) = 0 := by
    rw [List.countP_map, List.countP_eq_zero]
    intro p hp
    have hpos : 0 < level body p := Nat.succ_pos _
    simp only [Function.comp_apply, decide_eq_true_eq, (embeds_inBody after h).level_eq hp]
    omega
  rw [(embeds_inAfter after h).outermost_eq, List.countP_append, hbody, List.countP_singleton,
    level_first]
  rfl

/-- Directly in the first placeholder stand the outermost ones of its body. -/
theorem directly_first :
    directly ('$' :: '\x7b' :: (body ++ '\x7d' :: after)) ⟨[], body, after⟩ = outermost body := by
  have hafter : (⟨[], body, after⟩ :: (placeholders after).map (Found.inAfter body)).countP
      (fun p => p.Inside ⟨[], body, after⟩ ∧ level ('$' :: '\x7b' :: (body ++ '\x7d' :: after)) p =
        level ('$' :: '\x7b' :: (body ++ '\x7d' :: after)) ⟨[], body, after⟩ + 1) = 0 := by
    rw [List.countP_eq_zero]
    intro p hp
    obtain rfl | hp := List.mem_cons.mp hp
    · simp [not_inside_first]
    · obtain ⟨q, hq, rfl⟩ := List.mem_map.mp hp
      simp [not_inAfter_inside_first after hq]
  unfold directly outermost
  rw [(embeds_inBody after h).perm.countP_eq, List.countP_append, hafter, List.countP_map,
    Nat.add_zero]
  refine List.countP_congr fun p hp => ?_
  simp only [Function.comp_apply, decide_eq_true_eq, inBody_inside, true_and,
    (embeds_inBody after h).level_eq hp, level_first]
  omega

end Closed

/-! ## Texts that fit -/

/-- The bodies of the closed placeholders that stand in no other one. -/
def bodies : List Char → List (List Char)
  | [] => []
  | '$' :: '\x7b' :: rest =>
    match _h : body? 0 rest with
    | some (body, after) => body :: bodies after
    | none => bodies rest
  | _ :: rest => bodies rest
termination_by s => s.length
decreasing_by
  · have := length_of_body? _h
    simp only [List.length_cons]
    omega
  · simp only [List.length_cons]
    omega
  · simp only [List.length_cons]
    omega

theorem bodies_closed {body : List Char} (h : Closes 0 body) (after : List Char) :
    bodies ('$' :: '\x7b' :: (body ++ '\x7d' :: after)) = body :: bodies after := by
  have hb := h.body?_append after
  rw [bodies]
  split <;> simp_all

theorem bodies_unclosed {rest : List Char} (h : body? 0 rest = none) :
    bodies ('$' :: '\x7b' :: rest) = bodies rest := by
  rw [bodies]
  split <;> simp_all

theorem bodies_char {c : Char} {s : List Char} (h : c = '$' → s.head? ≠ some '\x7b') :
    bodies (c :: s) = bodies s := by
  rw [bodies]
  rintro rest rfl rfl
  exact h rfl rfl

/-- Within `room` more placeholders, the text keeps within both bounds. -/
def Fits : (room : Nat) → List Char → Prop
  | 0, _ => False
  | room + 1, text =>
    (bodies text).length ≤ maxSubstitutions ∧ ∀ body ∈ bodies text, Fits room body

theorem fits_congr {text rest : List Char} (h : bodies text = bodies rest) (room : Nat) :
    Fits room text ↔ Fits room rest := by
  cases room with
  | zero => rfl
  | succ room => rw [Fits, Fits, h]

theorem length_bodies (text : List Char) : (bodies text).length = outermost text := by
  induction text using textInduction with
  | nil => simp [bodies, outermost, placeholders]
  | closed body after hb _ iha =>
    rw [bodies_closed hb, outermost_closed hb, List.length_cons, iha]
  | unclosed rest h ih =>
    rw [bodies_unclosed h, ih, (embeds_precede (placeholders_unclosed h)).outermost_eq]
    rfl
  | char c rest h ih =>
    rw [bodies_char h, ih, (embeds_precede (placeholders_char h)).outermost_eq]
    rfl

/-- What the levels and numbers of placeholders of a text that fits have to be. -/
structure InBounds (room : Nat) (text : List Char) : Prop where
  room_pos : 0 < room
  level : ∀ p ∈ placeholders text, level text p < room
  outermost : outermost text ≤ maxSubstitutions
  directly : ∀ p ∈ placeholders text, directly text p ≤ maxSubstitutions

theorem inBounds_precede {s rest text : List Char} {room : Nat}
    (h : placeholders text = (placeholders rest).map (Found.precede s)) :
    InBounds room text ↔ InBounds room rest := by
  have hem := embeds_precede h
  have hlevel : (∀ p ∈ placeholders text, level text p < room) ↔
      ∀ p ∈ placeholders rest, level rest p < room := by
    conv => lhs; rw [h]
    rw [List.forall_mem_map]
    exact forall₂_congr fun p hp => by rw [hem.level_eq hp, Nat.add_zero]
  have hdirectly : (∀ p ∈ placeholders text, directly text p ≤ maxSubstitutions) ↔
      ∀ p ∈ placeholders rest, directly rest p ≤ maxSubstitutions := by
    conv => lhs; rw [h]
    rw [List.forall_mem_map]
    exact forall₂_congr fun p hp => by rw [hem.directly_eq hp]
  have houtermost : outermost text = outermost rest := hem.outermost_eq
  constructor
  · rintro ⟨hr, hl, ho, hd⟩
    exact ⟨hr, hlevel.mp hl, houtermost ▸ ho, hdirectly.mp hd⟩
  · rintro ⟨hr, hl, ho, hd⟩
    exact ⟨hr, hlevel.mpr hl, houtermost ▸ ho, hdirectly.mpr hd⟩

theorem inBounds_closed {body after : List Char} {room : Nat} (h : Closes 0 body) :
    InBounds (room + 1) ('$' :: '\x7b' :: (body ++ '\x7d' :: after)) ↔
      outermost after + 1 ≤ maxSubstitutions ∧ InBounds room body ∧ InBounds (room + 1) after := by
  have hin := embeds_inBody after h
  have hbehind := embeds_inAfter after h
  have hlevel : (∀ p ∈ placeholders ('$' :: '\x7b' :: (body ++ '\x7d' :: after)),
      level ('$' :: '\x7b' :: (body ++ '\x7d' :: after)) p < room + 1) ↔
      (∀ p ∈ placeholders body, level body p < room) ∧ 0 < room ∧
        ∀ p ∈ placeholders after, level after p < room + 1 := by
    rw [forall_placeholders_closed h, level_first, Nat.lt_add_left_iff_pos]
    refine and_congr (forall₂_congr fun p hp => ?_) (and_congr_right fun _ =>
      forall₂_congr fun p hp => ?_)
    · rw [hin.level_eq hp, Nat.add_lt_add_iff_right]
    · rw [hbehind.level_eq hp, Nat.add_zero]
  have hdirectly : (∀ p ∈ placeholders ('$' :: '\x7b' :: (body ++ '\x7d' :: after)),
      directly ('$' :: '\x7b' :: (body ++ '\x7d' :: after)) p ≤ maxSubstitutions) ↔
      (∀ p ∈ placeholders body, directly body p ≤ maxSubstitutions) ∧
        outermost body ≤ maxSubstitutions ∧
        ∀ p ∈ placeholders after, directly after p ≤ maxSubstitutions := by
    rw [forall_placeholders_closed h, directly_first h]
    refine and_congr (forall₂_congr fun p hp => ?_) (and_congr_right fun _ =>
      forall₂_congr fun p hp => ?_)
    · rw [hin.directly_eq hp]
    · rw [hbehind.directly_eq hp]
  constructor
  · rintro ⟨-, hl, ho, hd⟩
    obtain ⟨hlb, hr, hla⟩ := hlevel.mp hl
    obtain ⟨hdb, hob, hda⟩ := hdirectly.mp hd
    rw [outermost_closed h] at ho
    exact ⟨ho, ⟨hr, hlb, hob, hdb⟩, ⟨Nat.succ_pos _, hla, Nat.le_of_succ_le ho, hda⟩⟩
  · rintro ⟨ho, ⟨hr, hlb, hob, hdb⟩, ⟨-, hla, -, hda⟩⟩
    rw [← outermost_closed h] at ho
    exact ⟨Nat.succ_pos _, hlevel.mpr ⟨hlb, hr, hla⟩, ho, hdirectly.mpr ⟨hdb, hob, hda⟩⟩

theorem fits_closed {body after : List Char} {room : Nat} (h : Closes 0 body) :
    Fits (room + 1) ('$' :: '\x7b' :: (body ++ '\x7d' :: after)) ↔
      outermost after + 1 ≤ maxSubstitutions ∧ Fits room body ∧ Fits (room + 1) after := by
  rw [Fits, Fits, bodies_closed h, List.length_cons, length_bodies, List.forall_mem_cons]
  constructor
  · rintro ⟨ho, hb, ha⟩
    exact ⟨ho, hb, Nat.le_of_succ_le ho, ha⟩
  · rintro ⟨ho, hb, -, ha⟩
    exact ⟨ho, hb, ha⟩

theorem fits_zero_iff {text : List Char} : Fits 0 text ↔ InBounds 0 text :=
  ⟨(nomatch ·), fun h => absurd h.room_pos (Nat.lt_irrefl 0)⟩

/-- A text fits if its levels and numbers of placeholders keep within the bounds. -/
theorem fits_iff {room : Nat} {text : List Char} : Fits room text ↔ InBounds room text := by
  induction text using textInduction generalizing room with
  | nil =>
    cases room with
    | zero => exact fits_zero_iff
    | succ room =>
      refine ⟨fun _ => ⟨Nat.succ_pos _, ?_, ?_, ?_⟩, fun _ => ⟨?_, ?_⟩⟩ <;>
        simp [placeholders, bodies, outermost]
  | closed body after hb ihb iha =>
    cases room with
    | zero => exact fits_zero_iff
    | succ room => rw [fits_closed hb, inBounds_closed hb, ihb, iha]
  | unclosed rest h ih =>
    rw [fits_congr (bodies_unclosed h), ih, inBounds_precede (placeholders_unclosed h)]
  | char c rest h ih =>
    rw [fits_congr (bodies_char h), ih, inBounds_precede (placeholders_char h)]

/-! ## Bodies by the first closed placeholder -/

theorem bodies_of_next?_none {text : List Char} (h : next? text = none) : bodies text = [] := by
  induction text using textInduction with
  | nil => rw [bodies]
  | closed body after hb _ _ =>
    rw [next?_closed hb] at h
    cases h
  | unclosed rest hn ih =>
    rw [next?_open hn, Option.map_eq_none_iff] at h
    rw [bodies_unclosed hn, ih h]
  | char c rest ho ih =>
    rw [next?_char ho, Option.map_eq_none_iff] at h
    rw [bodies_char ho, ih h]

theorem bodies_of_next?_some {text : List Char} {p : Found} (h : next? text = some p) :
    bodies text = p.body :: bodies p.after := by
  induction text using textInduction generalizing p with
  | nil => cases h
  | closed body after hb _ _ =>
    rw [next?_closed hb] at h
    cases h
    exact bodies_closed hb after
  | unclosed rest hn ih =>
    rw [next?_open hn, Option.map_eq_some_iff] at h
    obtain ⟨q, hq, rfl⟩ := h
    rw [bodies_unclosed hn, ih hq]
    rfl
  | char c rest ho ih =>
    rw [next?_char ho, Option.map_eq_some_iff] at h
    obtain ⟨q, hq, rfl⟩ := h
    rw [bodies_char ho, ih hq]
    rfl

/-- A text without `$` in front opens nothing. -/
theorem bodies_append {s : List Char} (h : '$' ∉ s) (t : List Char) :
    bodies (s ++ t) = bodies t := by
  induction s with
  | nil => rfl
  | cons c s ih =>
    simp only [List.mem_cons, not_or] at h
    rw [List.cons_append, bodies_char fun hc => absurd hc.symm h.1, ih h.2]

/-! ## What is reported -/

variable {σ : Type} {host : Host σ}

/-- No answer of the host contains a `$`. -/
def Host.NoDollar (host : Host σ) : Prop :=
  ∀ source argument s answer, (host.resolve source argument s).1 = some answer →
    '$' ∉ answer.toList

theorem Host.NoDollar.value (h : host.NoDollar) (body : List Char) (s : σ) :
    '$' ∉ (host.value body s).1 := by
  obtain hv | ⟨source, argument, answer, hr, hv⟩ := host.value_cases body s
  · rw [hv]
    exact List.not_mem_nil
  · rw [hv]
    exact h _ _ _ _ hr

theorem quiet_append_query {events : List Event} {q : Query} :
    Quiet (events ++ [.query q]) ↔ Quiet events := by
  simp [Quiet]

theorem not_quiet_append_report {events : List Event} {limit : Limit} :
    ¬ Quiet (events ++ [.report limit]) := fun h => not_quiet_report limit h.append.2

/-- Rounds report nothing if there are not too many and no body reports anything. -/
theorem quiet_substitute_iff (hh : host.NoDollar) {F : List Char → Prop}
    {expandBody : List Char → σ × List Event → List Char × (σ × List Event)}
    (hbody : ∀ body s, Quiet (expandBody body s).2.2 ↔ Quiet s.2 ∧ F body) (whole : List Char)
    (budget : Nat) (text : List Char) (s : σ × List Event) :
    Quiet (substitute host.recording expandBody whole budget text s).2.2 ↔
      Quiet s.2 ∧ (bodies text).length ≤ budget ∧ ∀ body ∈ bodies text, F body := by
  fun_induction substitute host.recording expandBody whole budget text s with
  | case1 budget text s hn =>
    rw [bodies_of_next?_none hn]
    simp
  | case2 text s p hn =>
    rw [bodies_of_next?_some hn]
    exact ⟨fun h => absurd h not_quiet_append_report, fun h => absurd h.2.1 (by simp)⟩
  | case3 text s p hn budget body s₁ hb value s₂ hv rest s₃ hr ih =>
    have hinner := hbody p.body s
    rw [hb] at hinner
    rw [host.recording_value, Prod.mk.injEq] at hv
    obtain ⟨rfl, rfl⟩ := hv
    rw [hr, quiet_append_query, hinner, bodies_append (hh.value _ _)] at ih
    rw [ih, bodies_of_next?_some hn, List.length_cons, List.forall_mem_cons,
      Nat.succ_le_succ_iff, and_assoc, and_left_comm (a := F p.body)]

/-- Nothing is reported if and only if the text fits. -/
theorem quiet_expandWithin_iff (hh : host.NoDollar) (room : Nat) (text : List Char)
    (s : σ × List Event) :
    Quiet (expandWithin host.recording room text s).2.2 ↔ Quiet s.2 ∧ Fits room text := by
  induction room generalizing text s with
  | zero => exact ⟨fun h => absurd h not_quiet_append_report, fun h => nomatch h.2⟩
  | succ room ih => exact quiet_substitute_iff hh ih text maxSubstitutions text s

theorem quiet_expand_iff (hh : host.NoDollar) (token : String) (s : σ) :
    Quiet (expand host.recording token (s, [])).2.2 ↔ InBounds maxNesting token.toList := by
  rw [expand, ← fits_iff, quiet_expandWithin_iff hh]
  exact and_iff_right fun limit => List.not_mem_nil

/-! ## Tokens -/

/-- **A bound is reported if and only if the token passes it.** With answers that open nothing, this
is if one of its closed placeholders is at level `maxNesting` or deeper, or if more than
`maxSubstitutions` stand directly in the token or directly in one of them. -/
theorem expand_reports_iff (hh : host.NoDollar) (token : String) (s : σ) :
    ¬ Quiet (expand host.recording token (s, [])).2.2 ↔
      (∃ p : Found, p.IsIn token.toList ∧ maxNesting ≤ level token.toList p) ∨
        maxSubstitutions < outermost token.toList ∨
          ∃ q : Found, q.IsIn token.toList ∧ maxSubstitutions < directly token.toList q := by
  rw [quiet_expand_iff hh]
  constructor
  · intro h
    apply Classical.byContradiction
    intro hnone
    simp only [not_or, not_exists, not_and, Nat.not_le, Nat.not_lt] at hnone
    obtain ⟨hl, ho, hd⟩ := hnone
    exact h ⟨by decide, fun p hp => hl p (mem_placeholders_iff.mp hp), ho,
      fun q hq => hd q (mem_placeholders_iff.mp hq)⟩
  · rintro (⟨p, hp, hl⟩ | ho | ⟨q, hq, hd⟩) h
    · exact Nat.not_le.mpr (h.level p (mem_placeholders_iff.mpr hp)) hl
    · exact Nat.not_le.mpr ho h.outermost
    · exact Nat.not_le.mpr hd (h.directly q (mem_placeholders_iff.mpr hq))

/-- Braces in the answers neither open nor close anything. -/
theorem expand_reports_iff_braces :
    let host : Host Nat := ⟨fun _ _ n => (some "\x7d:\x7b", n + 1), fun _ n => n⟩
    let token := "$\x7ba $\x7bb$\x7bc\x7d\x7d$\x7b\x7d"
    host.NoDollar ∧ (¬ Quiet (expand host.recording token (0, [])).2.2 ↔
      (∃ p : Found, p.IsIn token.toList ∧ maxNesting ≤ level token.toList p) ∨
        maxSubstitutions < outermost token.toList ∨
          ∃ q : Found, q.IsIn token.toList ∧ maxSubstitutions < directly token.toList q) := by
  intro host token
  have hh : host.NoDollar := by
    intro source argument n answer h
    cases h
    decide
  exact ⟨hh, expand_reports_iff hh token 0⟩

/-! ## Towers -/

/-- Placeholders in each other, `n` of them. -/
def tower : Nat → List Char
  | 0 => []
  | n + 1 => '$' :: '\x7b' :: (tower n ++ ['\x7d'])

theorem Closes.append_closing {depth : Nat} {s : List Char} (h : Closes depth s) :
    Closes (depth + 1) (s ++ ['\x7d']) := by
  induction h with
  | nil => exact .closing .nil
  | opening _ ih => exact .opening ih
  | closing _ ih => exact .closing ih
  | @char depth c s hc ho _ ih =>
    refine .char hc (fun hd => ?_) ih
    cases s with
    | nil => simp
    | cons d s => exact ho hd

theorem closes_tower (n : Nat) : Closes 0 (tower n) := by
  induction n with
  | zero => exact .nil
  | succ n ih => exact .opening ih.append_closing

theorem fits_tower_iff {room n : Nat} : Fits room (tower n) ↔ n < room := by
  induction n generalizing room with
  | zero =>
    cases room with
    | zero => simp [Fits]
    | succ room => simp [Fits, tower, bodies]
  | succ n ih =>
    cases room with
    | zero => simp [Fits]
    | succ room =>
      have hone : 1 ≤ maxSubstitutions := by decide
      rw [Fits, tower, bodies_closed (closes_tower n), bodies, List.length_singleton,
        and_iff_right hone, List.forall_mem_singleton, ih, Nat.add_lt_add_iff_right]

/-- At level `maxNesting` itself a bound is reported, though no placeholder is deeper and there are
not too many. -/
theorem expand_reports_at_limit :
    let host : Host Unit := ⟨fun _ _ s => (none, s), fun _ s => s⟩
    let token := String.ofList (tower maxNesting)
    ¬ Quiet (expand host.recording token ((), [])).2.2 ∧
      ¬ ((∃ p : Found, p.IsIn token.toList ∧ maxNesting < level token.toList p) ∨
        maxSubstitutions < outermost token.toList ∨
          ∃ q : Found, q.IsIn token.toList ∧ maxSubstitutions < directly token.toList q) := by
  intro host token
  have hh : host.NoDollar := fun source argument s answer h => nomatch h
  have htoken : token.toList = tower maxNesting := String.toList_ofList
  have hbounds : InBounds (maxNesting + 1) token.toList := by
    rw [htoken, ← fits_iff, fits_tower_iff]
    exact Nat.lt_succ_self _
  constructor
  · rw [quiet_expand_iff hh, htoken, ← fits_iff, fits_tower_iff]
    exact Nat.lt_irrefl _
  · rintro (⟨p, hp, hl⟩ | ho | ⟨q, hq, hd⟩)
    · exact Nat.not_le.mpr (hbounds.level p (mem_placeholders_iff.mpr hp)) hl
    · exact Nat.not_le.mpr ho hbounds.outermost
    · exact Nat.not_le.mpr hd (hbounds.directly q (mem_placeholders_iff.mpr hq))

end Testbench.Placeholder
