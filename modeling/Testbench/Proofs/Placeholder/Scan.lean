import Testbench.Proofs.Placeholder.Evaluation

/-!
# Expansion as a scan

`expand` is defined by the bounds on its two repetitions, and with that it ends by definition. Here
it is taken apart into single steps of a machine that has no such bounds built in: it looks for the
next `${` from a place in the text on, puts values into the text and looks again from where the
value begins, and holds the texts around a body back while the body is expanded.

* `sight` : what a scan comes upon.
* `Config.step?` : one step of the machine; `begin` : its start on a text.
* `reaches_begin` : every run on a text ends, with what `expandWithin` makes of the text.
* `bounded_of_reaches` : texts nest no deeper than `maxNesting`, and in none of them more than
  `maxSubstitutions` placeholders are replaced.
* `advances_of_step?` : a step that replaces nothing moves the place on.
* `reaches_of_exhausted` : after the last replacement a text stays as it stands.
* `expand_terminates` : all this for a token, whatever its host answers.
-/

set_option autoImplicit false

namespace Testbench.Placeholder

/-! ## The machine -/

/-- What a scan comes upon: no `${`, or its first `${`, which is closed or not. -/
inductive Sight where
  | nothing
  | unclosed (before inside : List Char)
  | closed (found : Found)

def Sight.precede (c : Char) : Sight → Sight
  | .nothing => .nothing
  | .unclosed before inside => .unclosed (c :: before) inside
  | .closed found => .closed (found.precede [c])

/-- The first `${` of a text. -/
def sight : List Char → Sight
  | [] => .nothing
  | '$' :: '\x7b' :: rest =>
    match body? 0 rest with
    | some (body, after) => .closed ⟨[], body, after⟩
    | none => .unclosed [] rest
  | c :: rest => (sight rest).precede c

/-- A text while its placeholders are replaced: what the scan has passed, what it has still to look
at, and how many placeholders it took up. The message of a bound quotes the text at first. -/
structure Scan where
  whole : List Char
  passed : List Char
  rest : List Char
  made : Nat

namespace Scan

/-- The text as it stands. -/
def text (k : Scan) : List Char := k.passed ++ k.rest

/-- The scan moved on past `front`. -/
def pass (k : Scan) (front rest : List Char) : Scan :=
  { k with passed := k.passed ++ front, rest := rest }

/-- The scan while the placeholder it came upon is expanded. -/
def takeUp (k : Scan) (found : Found) : Scan :=
  { k.pass found.before found.after with made := k.made + 1 }

/-- The scan with a value in the place of the placeholder. -/
def resume (k : Scan) (value : List Char) : Scan := { k with rest := value ++ k.rest }

end Scan

/-- What the machine is at: a text, or an expanded one that it gives back. -/
inductive Task where
  | scan (k : Scan)
  | done (text : List Char)

/-- The machine, with the scans that wait for the body of their placeholder, the innermost first.
What they have still to look at begins behind that placeholder. -/
structure Config (σ : Type) where
  task : Task
  held : List Scan
  state : σ

variable {σ : Type}

/-- The start of the machine on a text inside of the held ones. -/
def begin (host : Host σ) (text : List Char) (held : List Scan) (s : σ) : Config σ :=
  if maxNesting ≤ held.length then
    ⟨.done text, held, host.report (.nesting (String.ofList text)) s⟩
  else ⟨.scan ⟨text, [], text, 0⟩, held, s⟩

/-- One step, unless the outermost text is done. -/
def Config.step? (host : Host σ) : Config σ → Option (Config σ)
  | ⟨.scan k, held, s⟩ =>
    match sight k.rest with
    | .nothing => some ⟨.done k.text, held, s⟩
    | .unclosed before inside => some ⟨.scan (k.pass (before ++ ['$', '\x7b']) inside), held, s⟩
    | .closed found =>
      if k.made < maxSubstitutions then some (begin host found.body (k.takeUp found :: held) s)
      else some ⟨.done k.text, held, host.report (.substitutions (String.ofList k.whole)) s⟩
  | ⟨.done body, k :: held, s⟩ =>
    some ⟨.scan (k.resume (host.value body s).1), held, (host.value body s).2⟩
  | ⟨.done _, [], _⟩ => none

/-- The texts whose placeholders are being replaced, each inside of the next. -/
def Config.scans (c : Config σ) : List Scan :=
  match c.task with
  | .scan k => k :: c.held
  | .done _ => c.held

/-- The second configuration comes right before the first. -/
def Config.Follows (host : Host σ) (d c : Config σ) : Prop := c.step? host = some d

/-- The machine comes from one configuration to the other. -/
inductive Reaches (host : Host σ) : Config σ → Config σ → Prop where
  | refl {c : Config σ} : Reaches host c c
  | step {c d e : Config σ} : c.step? host = some d → Reaches host d e → Reaches host c e

/-! ## What a scan comes upon -/

theorem sight_char {c : Char} {s : List Char} (h : c = '$' → s.head? ≠ some '\x7b') :
    sight (c :: s) = (sight s).precede c := by
  rw [sight]
  rintro rest rfl rfl
  exact h rfl rfl

theorem sight_closed {body : List Char} (h : Closes 0 body) (after : List Char) :
    sight ('$' :: '\x7b' :: (body ++ '\x7d' :: after)) = .closed ⟨[], body, after⟩ := by
  rw [sight, h.body?_append]

theorem sight_unclosed {rest : List Char} (h : body? 0 rest = none) :
    sight ('$' :: '\x7b' :: rest) = .unclosed [] rest := by
  rw [sight, h]

/-- The first closed placeholder is what the scan comes upon, or behind that. -/
theorem sight_cases (text : List Char) :
    (sight text = .nothing ∧ next? text = none) ∨
      (∃ before inside, sight text = .unclosed before inside ∧
        text = before ++ '$' :: '\x7b' :: inside ∧
        next? text = (next? inside).map (Found.precede (before ++ ['$', '\x7b']))) ∨
      ∃ found : Found, sight text = .closed found ∧ next? text = some found := by
  induction text using textInduction with
  | nil => exact .inl ⟨rfl, rfl⟩
  | closed body after hb _ _ => exact .inr (.inr ⟨_, sight_closed hb after, next?_closed hb after⟩)
  | unclosed rest hn _ => exact .inr (.inl ⟨[], rest, sight_unclosed hn, rfl, next?_open hn⟩)
  | char c rest ho ih =>
    rw [sight_char ho, next?_char ho]
    obtain ⟨hs, hn⟩ | ⟨before, inside, hs, rfl, hn⟩ | ⟨found, hs, hn⟩ := ih
    · exact .inl ⟨by rw [hs]; rfl, by rw [hn]; rfl⟩
    · refine .inr (.inl ⟨c :: before, inside, by rw [hs]; rfl, rfl, ?_⟩)
      rw [hn, Option.map_map]
      rfl
    · exact .inr (.inr ⟨_, by rw [hs]; rfl, by rw [hn]; rfl⟩)

/-! ## Runs -/

variable {host : Host σ}

theorem Reaches.trans {c d e : Config σ} (h : Reaches host c d) (h' : Reaches host d e) :
    Reaches host c e := by
  induction h with
  | refl => exact h'
  | step hs _ ih => exact .step hs (ih h')

theorem Reaches.single {c d : Config σ} (h : c.step? host = some d) : Reaches host c d :=
  .step h .refl

/-- A scan that comes upon nothing is done. -/
theorem step?_nothing {k : Scan} (h : sight k.rest = .nothing) (held : List Scan) (s : σ) :
    Config.step? host ⟨.scan k, held, s⟩ = some ⟨.done k.text, held, s⟩ := by
  rw [Config.step?, h]

theorem step?_unclosed {k : Scan} {before inside : List Char}
    (h : sight k.rest = .unclosed before inside) (held : List Scan) (s : σ) :
    Config.step? host ⟨.scan k, held, s⟩ =
      some ⟨.scan (k.pass (before ++ ['$', '\x7b']) inside), held, s⟩ := by
  rw [Config.step?, h]

theorem step?_closed {k : Scan} {found : Found} (h : sight k.rest = .closed found)
    (hk : k.made < maxSubstitutions) (held : List Scan) (s : σ) :
    Config.step? host ⟨.scan k, held, s⟩ =
      some (begin host found.body (k.takeUp found :: held) s) := by
  rw [Config.step?, h]
  exact if_pos hk

theorem step?_exhausted {k : Scan} {found : Found} (h : sight k.rest = .closed found)
    (hk : maxSubstitutions ≤ k.made) (held : List Scan) (s : σ) :
    Config.step? host ⟨.scan k, held, s⟩ =
      some ⟨.done k.text, held, host.report (.substitutions (String.ofList k.whole)) s⟩ := by
  rw [Config.step?, h]
  exact if_neg (Nat.not_lt.mpr hk)

/-- The scan passes every `${` in front of the first closed placeholder. -/
theorem reaches_sight (k : Scan) (held : List Scan) (s : σ) :
    ∃ front rest, k.rest = front ++ rest ∧
      Reaches host ⟨.scan k, held, s⟩ ⟨.scan (k.pass front rest), held, s⟩ ∧
      ((sight rest = .nothing ∧ next? k.rest = none) ∨
        ∃ found : Found, sight rest = .closed found ∧
          next? k.rest = some (found.precede front)) := by
  generalize hn : k.rest.length = n
  induction n using Nat.strongRecOn generalizing k with
  | ind n ih =>
    subst hn
    have hstay : k.pass [] k.rest = k := by rw [Scan.pass, List.append_nil]
    obtain ⟨hs, hn⟩ | ⟨before, inside, hs, hr, hn⟩ | ⟨found, hs, hn⟩ := sight_cases k.rest
    · exact ⟨[], k.rest, rfl, by rw [hstay]; exact .refl, .inl ⟨hs, hn⟩⟩
    · have hshorter : inside.length < k.rest.length := by
        rw [hr, List.length_append, List.length_cons, List.length_cons]
        omega
      obtain ⟨front, rest, hi, hreach, hcases⟩ :=
        ih inside.length hshorter (k.pass (before ++ ['$', '\x7b']) inside) rfl
      replace hi : inside = front ++ rest := hi
      refine ⟨before ++ ['$', '\x7b'] ++ front, rest, by simp [hr, hi], ?_, ?_⟩
      · have hpass : (k.pass (before ++ ['$', '\x7b']) inside).pass front rest =
            k.pass (before ++ ['$', '\x7b'] ++ front) rest := by
          simp only [Scan.pass, List.append_assoc]
        exact hpass ▸ .step (step?_unclosed hs held s) hreach
      · rw [hn]
        obtain ⟨hs, hn⟩ | ⟨found, hs, hn⟩ := hcases
        · exact .inl ⟨hs, Option.map_eq_none_iff.mpr hn⟩
        · refine .inr ⟨found, hs, Option.map_eq_some_iff.mpr ⟨_, hn, ?_⟩⟩
          simp only [Found.precede, List.append_assoc]
    · exact ⟨[], k.rest, rfl, by rw [hstay]; exact .refl, .inr ⟨found, hs, hn⟩⟩

theorem reaches_of_next?_none {k : Scan} (hn : next? k.rest = none) (held : List Scan) (s : σ) :
    Reaches host ⟨.scan k, held, s⟩ ⟨.done k.text, held, s⟩ := by
  obtain ⟨front, rest, hr, hreach, ⟨hs, -⟩ | ⟨found, -, hn'⟩⟩ := reaches_sight k held s
  · rw [Scan.text, hr, ← List.append_assoc]
    exact hreach.trans (.single (step?_nothing hs held s))
  · rw [hn] at hn'
    cases hn'

/-- When the last placeholder that may be was taken up, the text stays as it stands. -/
theorem reaches_of_exhausted {k : Scan} (hk : maxSubstitutions ≤ k.made) (held : List Scan)
    (s : σ) :
    Reaches host ⟨.scan k, held, s⟩ ⟨.done k.text, held, if next? k.rest = none then s
      else host.report (.substitutions (String.ofList k.whole)) s⟩ := by
  split
  · exact reaches_of_next?_none ‹_› held s
  · obtain ⟨front, rest, hr, hreach, ⟨-, hn⟩ | ⟨found, hs, -⟩⟩ := reaches_sight k held s
    · contradiction
    · rw [Scan.text, hr, ← List.append_assoc]
      exact hreach.trans (.single (step?_exhausted (k := k.pass front rest) hs hk held s))

/-- A scan ends, with what `substitute` makes of the rest of the text, if every body does. -/
theorem reaches_scan {expandBody : List Char → σ → List Char × σ} {held : List Scan}
    (hbody : ∀ (body : List Char) (k : Scan) (s : σ), Reaches host (begin host body (k :: held) s)
      ⟨.done (expandBody body s).1, k :: held, (expandBody body s).2⟩)
    (k : Scan) (budget : Nat) (hk : maxSubstitutions - k.made = budget) (s : σ) :
    Reaches host ⟨.scan k, held, s⟩
      ⟨.done (k.passed ++ (substitute host expandBody k.whole budget k.rest s).1), held,
        (substitute host expandBody k.whole budget k.rest s).2⟩ := by
  induction budget generalizing k s with
  | zero =>
    have hend := @reaches_of_exhausted σ host k (Nat.sub_eq_zero_iff_le.mp hk) held s
    cases hn : next? k.rest with
    | none =>
      rw [substitute_of_next?_none _ _ _ _ hn]
      rwa [if_pos hn] at hend
    | some found =>
      rw [substitute_zero _ _ _ _ hn]
      rwa [if_neg (by rw [hn]; exact Option.some_ne_none _)] at hend
  | succ budget ih =>
    obtain ⟨front, rest, hr, hreach, ⟨-, hn⟩ | ⟨found, hs, hn⟩⟩ := reaches_sight k held s
    · rw [substitute_of_next?_none _ _ _ _ hn]
      exact reaches_of_next?_none hn held s
    · have hmade : (k.pass front rest).made < maxSubstitutions := Nat.lt_of_sub_eq_succ hk
      have hleft : maxSubstitutions - (k.made + 1) = budget := by omega
      let body := expandBody found.body s
      let value := host.value body.1 body.2
      have hrest := ih (((k.pass front rest).takeUp found).resume value.1) hleft value.2
      rw [substitute_succ _ _ _ _ hn]
      refine hreach.trans (.step (step?_closed hs hmade held s) ?_)
      refine (hbody found.body _ s).trans (.step rfl ?_)
      simpa only [Scan.resume, Scan.takeUp, Scan.pass, Found.precede, List.append_assoc] using hrest

/-- Every run on a text ends, with what `expandWithin` makes of the text. -/
theorem reaches_begin (room : Nat) (text : List Char) (held : List Scan)
    (hroom : maxNesting - held.length = room) (s : σ) :
    Reaches host (begin host text held s)
      ⟨.done (expandWithin host room text s).1, held, (expandWithin host room text s).2⟩ := by
  induction room generalizing text held s with
  | zero =>
    rw [begin, if_pos (Nat.sub_eq_zero_iff_le.mp hroom)]
    exact .refl
  | succ room ih =>
    have hlt : held.length < maxNesting := Nat.lt_of_sub_eq_succ hroom
    rw [begin, if_neg (Nat.not_le.mpr hlt)]
    refine reaches_scan (fun body k s => ih body (k :: held) ?_ s) ⟨text, [], text, 0⟩ _ rfl s
    rw [List.length_cons]
    omega

/-! ## Every run ends -/

/-- The machine does one thing only, so what comes to a stop cannot go on for ever. -/
theorem Reaches.acc {c d : Config σ} (h : Reaches host c d) (hd : d.step? host = none) :
    Acc (Config.Follows host) c := by
  induction h with
  | refl =>
    refine .intro _ fun e he => ?_
    rw [Config.Follows, hd] at he
    cases he
  | step hs _ ih =>
    refine .intro _ fun e he => ?_
    rw [Config.Follows, hs] at he
    cases he
    exact ih hd

/-! ## What holds on the way -/

/-- The texts nest no deeper than `maxNesting`, and in none of them more than `maxSubstitutions`
placeholders were taken up. -/
structure Config.Bounded (c : Config σ) : Prop where
  nesting : c.scans.length ≤ maxNesting
  made : ∀ k ∈ c.scans, k.made ≤ maxSubstitutions

theorem bounded_begin {held : List Scan} (hlen : held.length ≤ maxNesting)
    (hmade : ∀ k ∈ held, k.made ≤ maxSubstitutions) (text : List Char) (s : σ) :
    (begin host text held s).Bounded := by
  unfold begin
  split
  · exact ⟨hlen, hmade⟩
  · rename_i hlt
    refine ⟨Nat.lt_of_not_le hlt, fun k hk => ?_⟩
    obtain rfl | hk := List.mem_cons.mp hk
    · exact Nat.zero_le _
    · exact hmade k hk

theorem bounded_step {c d : Config σ} (h : c.step? host = some d) (hc : c.Bounded) : d.Bounded := by
  obtain ⟨task, held, s⟩ := c
  have hlen := hc.nesting
  have hmade := hc.made
  cases task with
  | scan k =>
    obtain ⟨hk, hheld⟩ := List.forall_mem_cons.mp hmade
    obtain ⟨hs, -⟩ | ⟨before, inside, hs, -⟩ | ⟨found, hs, -⟩ := sight_cases k.rest
    · rw [step?_nothing hs, Option.some.injEq] at h
      exact h ▸ ⟨Nat.le_of_succ_le hlen, hheld⟩
    · rw [step?_unclosed hs, Option.some.injEq] at h
      exact h ▸ ⟨hlen, List.forall_mem_cons.mpr ⟨hk, hheld⟩⟩
    · by_cases hlt : k.made < maxSubstitutions
      · have htaken : ∀ j ∈ k.takeUp found :: held, j.made ≤ maxSubstitutions :=
          List.forall_mem_cons.mpr ⟨hlt, hheld⟩
        have hdeeper : (k.takeUp found :: held).length ≤ maxNesting := hlen
        rw [step?_closed hs hlt, Option.some.injEq] at h
        exact h ▸ bounded_begin hdeeper htaken _ _
      · rw [step?_exhausted hs (Nat.not_lt.mp hlt), Option.some.injEq] at h
        exact h ▸ ⟨Nat.le_of_succ_le hlen, hheld⟩
  | done body =>
    cases held with
    | nil => cases h
    | cons k held =>
      cases h
      obtain ⟨hk, hheld⟩ := List.forall_mem_cons.mp hmade
      exact ⟨hlen, List.forall_mem_cons.mpr ⟨hk, hheld⟩⟩

theorem bounded_of_reaches {c d : Config σ} (h : Reaches host c d) (hc : c.Bounded) :
    d.Bounded := by
  induction h with
  | refl => exact hc
  | step hs _ ih => exact ih (bounded_step hs hc)

/-- A step of a scan that replaces nothing passes a part of the text, and changes nothing else. -/
theorem advances_of_step? {k k' : Scan} {held : List Scan} {s s' : σ}
    (h : Config.step? host ⟨.scan k, held, s⟩ = some ⟨.scan k', held, s'⟩) :
    k.passed.length < k'.passed.length ∧ k'.text = k.text ∧ k'.made = k.made ∧ s' = s := by
  obtain ⟨hs, -⟩ | ⟨before, inside, hs, hr, -⟩ | ⟨found, hs, -⟩ := sight_cases k.rest
  · rw [step?_nothing hs] at h
    cases h
  · rw [step?_unclosed hs] at h
    cases h
    simp [Scan.pass, Scan.text, hr]
  · by_cases hlt : k.made < maxSubstitutions
    · rw [step?_closed hs hlt, begin] at h
      split at h
      · cases h
      · simp at h
    · rw [step?_exhausted hs (Nat.not_lt.mp hlt)] at h
      cases h

/-! ## Tokens -/

/-- **Expansion ends whatever the host answers.** The machine starts on a token, has no infinite run
and comes to a stop with the expanded token. On the way, texts nest no deeper than `maxNesting` and
in none of them more than `maxSubstitutions` placeholders are replaced; a step that replaces nothing
moves the scan on; and after the last replacement a text stays as it stands. -/
theorem expand_terminates (host : Host σ) (token : String) (s : σ) :
    Acc (Config.Follows host) (begin host token.toList [] s) ∧
    Reaches host (begin host token.toList [] s)
      ⟨.done (expand host token s).1.toList, [], (expand host token s).2⟩ ∧
    (∀ c, Reaches host (begin host token.toList [] s) c → c.Bounded) ∧
    (∀ k k' held s s', Config.step? host ⟨.scan k, held, s⟩ = some ⟨.scan k', held, s'⟩ →
      k.passed.length < k'.passed.length ∧ k'.text = k.text ∧ k'.made = k.made ∧ s' = s) ∧
    (∀ k held s, k.made = maxSubstitutions →
      Reaches host ⟨.scan k, held, s⟩ ⟨.done k.text, held, if next? k.rest = none then s
        else host.report (.substitutions (String.ofList k.whole)) s⟩) := by
  have hend := @reaches_begin σ host maxNesting token.toList [] rfl s
  rw [expand]
  generalize expandWithin host maxNesting token.toList s = expanded at hend ⊢
  rw [String.toList_ofList]
  refine ⟨hend.acc rfl, hend, fun c hc => ?_, fun k k' held s s' h => ?_,
    fun k held s hk => reaches_of_exhausted (Nat.le_of_eq hk.symm) held s⟩
  · have hnone : ∀ k ∈ ([] : List Scan), k.made ≤ maxSubstitutions := fun k hk => absurd hk List.not_mem_nil
    exact bounded_of_reaches hc (bounded_begin (Nat.zero_le _) hnone _ _)
  · exact advances_of_step? h

/-- A variable that is worth itself and more each time, while the host counts what it is asked. -/
theorem expand_terminates_growing :
    let host : Host Nat :=
      ⟨fun _ _ n => (some "$\x7bl\x7d$\x7bl\x7d$\x7b", n + 1), fun _ n => n + 10000⟩
    let start := begin host "$\x7bl\x7d".toList [] 0
    let inside : Config Nat := ⟨.scan ⟨['l'], [], ['l'], 0⟩, [⟨"$\x7bl\x7d".toList, [], [], 1⟩], 0⟩
    let opened : Scan := ⟨['$', '\x7b'], [], ['$', '\x7b'], 3⟩
    let exhausted : Scan := ⟨['x'], [], "$\x7bl\x7d".toList, maxSubstitutions⟩
    Acc (Config.Follows host) start ∧
    Reaches host start
      ⟨.done (expand host "$\x7bl\x7d" 0).1.toList, [], (expand host "$\x7bl\x7d" 0).2⟩ ∧
    (Reaches host start inside ∧ inside.Bounded) ∧
    opened.passed.length < (opened.pass ['$', '\x7b'] []).passed.length ∧
    Reaches host ⟨.scan exhausted, [], 7⟩ ⟨.done exhausted.text, [], 10007⟩ := by
  intro host start inside opened exhausted
  obtain ⟨hacc, hend, hbounded, hadvances, hexhausted⟩ := expand_terminates host "$\x7bl\x7d" 0
  have hinside : Reaches host start inside := .step rfl .refl
  exact ⟨hacc, hend, ⟨hinside, hbounded inside hinside⟩, (hadvances opened _ [] 0 0 rfl).1,
    hexhausted exhausted [] 7 rfl⟩

end Testbench.Placeholder
