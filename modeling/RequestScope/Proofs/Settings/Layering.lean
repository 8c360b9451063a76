import RequestScope.Proofs.Text.Utf8
import RequestScope.Settings.Context
import RequestScope.Settings.EnvFile

/-!
# An environment and a file over it

A file adds to the environment and never replaces a text that is there. What it adds are the first
assignments to names without a text, among the lines in front of the one that ends the loading. The lines
are invalid or not, and name what they name, whatever values the variables have, so that the same file
adds nothing when it is loaded again.
-/

namespace RequestScope.Settings

/-! ### Assignments over an environment -/

namespace Variables

/-- An environment with assignments: of two for one name the first counts, and a name that has a text
keeps it. -/
def extend (vars : Variables) (said : List (String × String)) : Variables :=
  (said.reverse.filter fun e => (vars.text? e.1).isNone).foldl
    (fun m e => m.insert e.1 (Text.Utf8.encode e.2)) vars

variable {vars : Variables} {said : List (String × String)} {name : String}

theorem extend_cons (name value : String) :
    vars.extend ((name, value) :: said) =
      if (vars.text? name).isNone then (vars.extend said).insert name (Text.Utf8.encode value)
      else vars.extend said := by
  rw [extend, List.reverse_cons, List.filter_append, List.foldl_append, ← extend]
  by_cases hnone : (vars.text? name).isNone
  · simp only [hnone, List.filter_cons, List.filter_nil, if_true, List.foldl_cons, List.foldl_nil]
  · simp only [hnone, List.filter_cons, List.filter_nil, List.foldl_nil, Bool.false_eq_true, if_false]

theorem get?_extend_of_text (h : (vars.text? name).isSome) : (vars.extend said).get? name = vars.get? name := by
  induction said with
  | nil => rfl
  | cons e said ih =>
    rw [extend_cons]
    split
    · rename_i hnone
      have hne : e.1 ≠ name := fun heq => by
        rw [heq, Option.isNone_iff_eq_none] at hnone
        rw [hnone] at h
        cases h
      rw [SortedMap.get?_insert, if_neg hne, ih]
    · exact ih

theorem get?_extend_of_no_text (h : vars.text? name = none) :
    (vars.extend said).get? name = ((said.lookup name).map Text.Utf8.encode).or (vars.get? name) := by
  induction said with
  | nil => rfl
  | cons e said ih =>
    rw [extend_cons, List.lookup_cons]
    by_cases heq : e.1 = name
    · subst heq
      rw [if_pos (Option.isNone_iff_eq_none.mpr h), SortedMap.get?_insert, if_pos rfl, beq_self_eq_true]
      rfl
    · rw [beq_eq_false_iff_ne.mpr fun h => heq h.symm]
      split
      · rw [SortedMap.get?_insert, if_neg heq, ih]
      · exact ih

theorem text?_extend :
    (vars.extend said).text? name = (vars.text? name).or (said.lookup name) := by
  cases htext : vars.text? name with
  | some text =>
    rw [text?, get?_extend_of_text (Option.isSome_of_eq_some htext)]
    exact htext
  | none =>
    rw [text?, get?_extend_of_no_text htext]
    cases said.lookup name with
    | none => exact htext
    | some value =>
      have hdecode : Text.Utf8.decode? (Text.Utf8.encode value) = some value := by
        rw [Text.Utf8.decode?, Text.Utf8.decode_encode]
        rfl
      exact hdecode

end Variables

namespace EnvFile

theorem assign_extend (vars : Variables) (said : List (String × String)) (name value : String) :
    assign (vars.extend said) name value = vars.extend (said ++ [(name, value)]) := by
  have hlookup : ∀ other, (said ++ [(name, value)]).lookup other =
      (said.lookup other).or (if name = other then some value else none) := by
    intro other
    rw [List.lookup_append, List.lookup_cons, List.lookup_nil]
    by_cases heq : name = other
    · rw [if_pos heq, heq, beq_self_eq_true]
    · rw [if_neg heq, beq_eq_false_iff_ne.mpr fun h => heq h.symm]
  refine SortedMap.ext_get? fun other => ?_
  cases htext : vars.text? other with
  | some text =>
    have hsome : (vars.text? other).isSome := Option.isSome_of_eq_some htext
    rw [Variables.get?_extend_of_text hsome, assign, Variables.text?_extend]
    split
    · exact Variables.get?_extend_of_text hsome
    · rename_i hnone
      have hne : name ≠ other := fun heq => hnone (by rw [heq, htext]; rfl)
      rw [SortedMap.get?_insert, if_neg hne, Variables.get?_extend_of_text hsome]
  | none =>
    rw [Variables.get?_extend_of_no_text htext, hlookup, assign, Variables.text?_extend]
    by_cases heq : name = other
    · subst heq
      rw [htext, Option.none_or, if_pos rfl]
      cases hfirst : said.lookup name with
      | some first =>
        rw [Option.isSome_some, if_pos rfl, Variables.get?_extend_of_no_text htext, hfirst]
        rfl
      | none =>
        rw [if_neg (by simp), SortedMap.get?_insert, if_pos rfl]
        rfl
    · rw [if_neg heq, Option.or_none]
      split
      · exact Variables.get?_extend_of_no_text htext
      · rw [SortedMap.get?_insert, if_neg heq, Variables.get?_extend_of_no_text htext]

/-! ### Two readers of one value

Two readers may know different values of variables. They go through the same states but for the texts, and
these stay related as long as what references stand for keeps them so. -/

/-- A relation of texts that two readers keep: by the characters that both read, and by what a reference
stands for with either. -/
structure Keeps (related : List Char → List Char → Prop) (vars vars' : Variables)
    (earlier earlier' : Assignments) : Prop where
  nil : related [] []
  cons (c : Char) {text text' : List Char} : related text text' → related (c :: text) (c :: text')
  expand (name : String) {text text' : List Char} : related text text' →
    related ((EnvFile.expand vars earlier name).toList.reverse ++ text)
      ((EnvFile.expand vars' earlier' name).toList.reverse ++ text')

theorem keeps_eq {vars vars' : Variables} {earlier earlier' : Assignments}
    (h : ∀ name, EnvFile.expand vars earlier name = EnvFile.expand vars' earlier' name) :
    Keeps Eq vars vars' earlier earlier' where
  nil := rfl
  cons _ _ _ htext := by rw [htext]
  expand name _ _ htext := by rw [h name, htext]

theorem keeps_any (vars vars' : Variables) (earlier earlier' : Assignments) :
    Keeps (fun _ _ => True) vars vars' earlier earlier' where
  nil := trivial
  cons _ _ _ _ := trivial
  expand _ _ _ _ := trivial

namespace ValueState

variable {related : List Char → List Char → Prop} {vars vars' : Variables} {earlier earlier' : Assignments}

/-- The same state but for related texts. -/
def Alike (related : List Char → List Char → Prop) (s s' : ValueState) : Prop :=
  ∃ text', related s.text text' ∧ s' = { s with text := text' }

theorem Alike.push {s s' : ValueState} (hkeeps : Keeps related vars vars' earlier earlier')
    (h : Alike related s s') (c : Char) : Alike related (s.push c) (s'.push c) := by
  obtain ⟨text', htext, rfl⟩ := h
  exact ⟨c :: text', hkeeps.cons c htext, rfl⟩

theorem Alike.substitute {s s' : ValueState} (hkeeps : Keeps related vars vars' earlier earlier')
    (h : Alike related s s') :
    Alike related (s.substitute vars earlier) (s'.substitute vars' earlier') := by
  obtain ⟨text', htext, rfl⟩ := h
  exact ⟨_, hkeeps.expand (String.ofList s.name.reverse) htext, rfl⟩

theorem Alike.leave {s s' : ValueState} (h : Alike related s s') :
    Alike related { s with reference := .none } { s' with reference := .none } := by
  obtain ⟨text', htext, rfl⟩ := h
  exact ⟨text', htext, rfl⟩

theorem Alike.stepReference {s s' : ValueState} (hkeeps : Keeps related vars vars' earlier earlier')
    (h : Alike related s s') (c : Char) :
    Alike related (s.stepReference vars earlier c) (s'.stepReference vars' earlier' c) := by
  have hsubstituted := h.substitute hkeeps
  obtain ⟨text', htext, rfl⟩ := h
  rw [ValueState.stepReference, ValueState.stepReference]
  split
  · exact ⟨text', htext, rfl⟩
  · split
    · split
      · exact hsubstituted.leave
      · exact ⟨text', htext, rfl⟩
    · split
      · exact ⟨text', htext, rfl⟩
      · split
        · exact hsubstituted
        · exact (hsubstituted.push hkeeps c).leave

theorem Alike.stepPlain {s s' : ValueState} (hkeeps : Keeps related vars vars' earlier earlier')
    (h : Alike related s s') (c : Char) : Alike related (s.stepPlain c) (s'.stepPlain c) := by
  have hpush := h.push hkeeps c
  obtain ⟨text', htext, rfl⟩ := h
  have hcontrol : ∀ control : ValueState, control.text = s.text →
      Alike related control { control with text := text' } := fun control hsame => ⟨text', hsame ▸ htext, rfl⟩
  rw [ValueState.stepPlain, ValueState.stepPlain]
  repeat' split
  all_goals first | exact hpush | exact hcontrol _ rfl

theorem Alike.step? {s s' : ValueState} (hkeeps : Keeps related vars vars' earlier earlier')
    (h : Alike related s s') (c : Char) :
    Option.Rel (Alike related) (s.step? vars earlier c) (s'.step? vars' earlier' c) := by
  have hreference := h.stepReference hkeeps c
  have hplain := h.stepPlain hkeeps c
  obtain ⟨text', htext, rfl⟩ := h
  rw [ValueState.step?, ValueState.step?]
  split
  · cases unescape? c with
    | none => exact .none
    | some c => exact .some ⟨c :: text', hkeeps.cons c htext, rfl⟩
  · split
    · split
      · exact .some ⟨text', htext, rfl⟩
      · exact .some ⟨c :: text', hkeeps.cons c htext, rfl⟩
    · split
      · exact .some hreference
      · exact .some hplain

/-- Two readers find that there is a value or that there is none, and the values are related. -/
theorem Alike.run? {s s' : ValueState} (hkeeps : Keeps related vars vars' earlier earlier')
    (h : Alike related s s') (cs : List Char) :
    Option.Rel (fun value value' => related value.toList.reverse value'.toList.reverse)
      (ValueState.run? vars earlier cs s) (ValueState.run? vars' earlier' cs s') := by
  have hfinish : ∀ {s s' : ValueState}, Alike related s s' →
      Option.Rel (fun value value' => related value.toList.reverse value'.toList.reverse)
        (s.finish? vars earlier) (s'.finish? vars' earlier') := by
    intro s s' h
    obtain ⟨text', htext, hsubstituted⟩ := h.substitute hkeeps
    obtain ⟨_, _, rfl⟩ := h
    rw [ValueState.finish?, ValueState.finish?]
    split
    · exact .none
    · refine .some ?_
      rw [hsubstituted, String.toList_ofList, String.toList_ofList, List.reverse_reverse, List.reverse_reverse]
      exact htext
  induction cs generalizing s s' with
  | nil => exact hfinish h
  | cons c cs ih =>
    have hstep := h.step? hkeeps c
    have hend := hfinish h
    have hagain := ih h
    have hended : s'.ended = s.ended := by
      obtain ⟨_, _, rfl⟩ := h
      rfl
    rw [ValueState.run?, ValueState.run?, hended]
    split
    · split
      · exact hagain
      · split
        · exact hend
        · exact .none
    · generalize s.step? vars earlier c = next, s'.step? vars' earlier' c = next' at hstep
      cases hstep with
      | none => exact .none
      | some halike => exact ih halike

end ValueState

/-- Two lines of one shape: they assign to the same name, and the values are related. -/
inductive Line.Rel (related : String → String → Prop) : Line → Line → Prop
  | void : Rel related .void .void
  | assignment (name : String) {value value' : String} :
      related value value' → Rel related (.assignment name value) (.assignment name value')
  | invalid : Rel related .invalid .invalid

theorem rel_parseLine {related : List Char → List Char → Prop} {vars vars' : Variables}
    {earlier earlier' : Assignments} (hkeeps : Keeps related vars vars' earlier earlier') (text : String) :
    Line.Rel (fun value value' => related value.toList.reverse value'.toList.reverse)
      (parseLine vars earlier text) (parseLine vars' earlier' text) := by
  rw [parseLine, parseLine]
  split
  · exact .void
  · cases splitLine? (Text.trimStart (Text.trimEnd text.toList)) with
    | none => exact .invalid
    | some parts =>
      obtain ⟨name, rest⟩ := parts
      dsimp only
      split
      · exact .assignment name hkeeps.nil
      · have hvalues : Option.Rel (fun value value' => related value.toList.reverse value'.toList.reverse)
            (parseValue? vars earlier rest) (parseValue? vars' earlier' rest) :=
          ValueState.Alike.run? hkeeps ⟨[], hkeeps.nil, rfl⟩ rest
        generalize parseValue? vars earlier rest = found, parseValue? vars' earlier' rest = found' at hvalues
        cases hvalues with
        | none => exact .invalid
        | some hrelated => exact .assignment name hrelated

theorem parseLine_congr {vars vars' : Variables} {earlier earlier' : Assignments}
    (h : ∀ name, expand vars earlier name = expand vars' earlier' name) (text : String) :
    parseLine vars earlier text = parseLine vars' earlier' text := by
  have hrel := rel_parseLine (keeps_eq h) text
  generalize parseLine vars earlier text = line, parseLine vars' earlier' text = line' at hrel
  cases hrel with
  | void => rfl
  | invalid => rfl
  | assignment name heq => rw [String.toList_inj.mp (List.reverse_injective heq)]

/-! ### Loading -/

/-- Every name that an earlier line assigned to has a text. -/
def Known (earlier : Assignments) (vars : Variables) : Prop :=
  ∀ name, (earlier.get? name).isSome → (vars.text? name).isSome

theorem expand_of_known {earlier : Assignments} {vars : Variables} (h : Known earlier vars) (name : String) :
    expand vars earlier name = expand vars .empty name := by
  rw [expand, expand]
  cases htext : vars.text? name with
  | some text => rfl
  | none =>
    have hnone : earlier.get? name = none := by
      cases hget : earlier.get? name with
      | none => rfl
      | some value =>
        have hsome := h name (Option.isSome_of_eq_some hget)
        rw [htext] at hsome
        cases hsome
    rw [hnone]
    rfl

theorem isSome_text?_assign (vars : Variables) (name value other : String) :
    ((assign vars name value).text? other).isSome = ((vars.text? other).isSome || name == other) := by
  have hassign : assign vars name value = vars.extend [(name, value)] := assign_extend vars [] name value
  rw [hassign, Variables.text?_extend, List.lookup_cons, List.lookup_nil, Option.isSome_or]
  by_cases heq : name = other
  · rw [heq, beq_self_eq_true]
    rfl
  · rw [beq_eq_false_iff_ne.mpr heq, beq_eq_false_iff_ne.mpr fun h => heq h.symm]
    rfl

theorem Known.assign {earlier : Assignments} {vars : Variables} (h : Known earlier vars)
    (name value : String) : Known (earlier.insert name value) (assign vars name value) := by
  intro other hget
  rw [SortedMap.get?_insert] at hget
  rw [isSome_text?_assign, Bool.or_eq_true, beq_iff_eq]
  by_cases heq : name = other
  · exact .inr heq
  · rw [if_neg heq] at hget
    exact .inl (h other hget)

/-- What a line says over an environment. A line that is no text is invalid. -/
def readLine (vars : Variables) (line : List UInt8) : Line :=
  match Text.Utf8.decode? line with
  | some text => parseLine vars .empty text
  | none => .invalid

/-- The assignments of the lines in order, behind those already made, up to the first line that is invalid
or cannot be carried out. A line is read over the environment with the assignments in front of it. -/
def assignments (vars : Variables) : List (List UInt8) → List (String × String) → List (String × String)
  | [], said => said
  | line :: lines, said =>
    match readLine (vars.extend said) line with
    | .void => assignments vars lines said
    | .assignment name value =>
      if isUnassignable (vars.extend said) name value then said
      else assignments vars lines (said ++ [(name, value)])
    | .invalid => said

/-- A step of the loading, with the values of earlier lines out of the way. -/
theorem loadLines_cons {earlier : Assignments} {vars : Variables} (h : Known earlier vars)
    (line : List UInt8) (lines : List (List UInt8)) :
    loadLines (line :: lines) earlier vars =
      match readLine vars line with
      | .void => loadLines lines earlier vars
      | .assignment name value =>
        if isUnassignable vars name value then ⟨vars, some ⟨name, value⟩⟩
        else loadLines lines (earlier.insert name value) (assign vars name value)
      | .invalid => ⟨vars, none⟩ := by
  rw [loadLines, readLine]
  cases Text.Utf8.decode? line with
  | none => rfl
  | some text =>
    dsimp only
    have hparse : parseLine vars earlier text = parseLine vars .empty text :=
      parseLine_congr (expand_of_known h) text
    generalize parseLine vars earlier text = read at hparse ⊢
    subst hparse
    rfl

theorem vars_loadLines (vars : Variables) (lines : List (List UInt8)) (said : List (String × String))
    (earlier : Assignments) (h : Known earlier (vars.extend said)) :
    (loadLines lines earlier (vars.extend said)).vars = vars.extend (assignments vars lines said) := by
  induction lines generalizing said earlier with
  | nil => rfl
  | cons line lines ih =>
    rw [loadLines_cons h, assignments]
    cases readLine (vars.extend said) line with
    | invalid => rfl
    | void => exact ih said earlier h
    | assignment name value =>
      dsimp only
      split
      · rfl
      · have hknown := h.assign name value
        rw [assign_extend] at hknown ⊢
        exact ih _ _ hknown

theorem isSome_text?_loadLines {vars : Variables} {name : String} (h : (vars.text? name).isSome)
    (lines : List (List UInt8)) {earlier : Assignments} (hknown : Known earlier vars) :
    ((loadLines lines earlier vars).vars.text? name).isSome := by
  have hextend : (loadLines lines earlier vars).vars = vars.extend (assignments vars lines []) :=
    vars_loadLines vars lines [] earlier hknown
  rw [hextend, Variables.text?_extend, Option.isSome_or, h, Bool.true_or]

/-- Lines that have been carried out change nothing where all that they assign to has a text. Their values
may be others the second time, but not the names or the end of what is carried out. -/
theorem loadLines_again {lines : List (List UInt8)} {earlier earlier' : Assignments} {vars vars' : Variables}
    (hknown : Known earlier vars) (hknown' : Known earlier' vars')
    (hfault : (loadLines lines earlier vars).fault = none)
    (htexts : ∀ name, ((loadLines lines earlier vars).vars.text? name).isSome → (vars'.text? name).isSome) :
    loadLines lines earlier' vars' = ⟨vars', none⟩ := by
  induction lines generalizing earlier earlier' vars with
  | nil => rfl
  | cons line lines ih =>
    have hshape : Line.Rel (fun _ _ => True) (readLine vars line) (readLine vars' line) := by
      rw [readLine, readLine]
      cases Text.Utf8.decode? line with
      | none => exact .invalid
      | some text => exact rel_parseLine (keeps_any vars vars' .empty .empty) text
    rw [loadLines_cons hknown] at hfault htexts
    rw [loadLines_cons hknown']
    generalize readLine vars line = said, readLine vars' line = said' at hshape hfault htexts
    cases hshape with
    | invalid => rfl
    | void => exact ih hknown hknown' hfault htexts
    | @assignment name value value' _ =>
      dsimp only at hfault htexts ⊢
      split at hfault
      · cases hfault
      · rename_i hassignable
        rw [if_neg hassignable] at htexts
        have hown : ((assign vars name value).text? name).isSome := by
          rw [isSome_text?_assign, beq_self_eq_true, Bool.or_true]
        have htext : (vars'.text? name).isSome :=
          htexts name (isSome_text?_loadLines hown lines (hknown.assign name value))
        have hsame : assign vars' name value' = vars' := by rw [assign, if_pos htext]
        have hassignable' : ¬ isUnassignable vars' name value' := by
          rw [isUnassignable, Option.isNone_eq_false_iff.mpr htext, Bool.false_and]
          exact Bool.false_ne_true
        rw [if_neg hassignable', hsame]
        refine ih (hknown.assign name value) ?_ hfault htexts
        exact hsame ▸ hknown'.assign name value'

/-- Loading ends the process only over a value that no variable can hold. -/
theorem mem_value_of_fault {lines : List (List UInt8)} {earlier : Assignments} {vars : Variables}
    {fault : Unassignable} (h : (loadLines lines earlier vars).fault = some fault) :
    Char.ofNat 0 ∈ fault.value.toList := by
  induction lines generalizing earlier vars with
  | nil => cases h
  | cons line lines ih =>
    rw [loadLines] at h
    split at h
    · cases h
    · split at h
      · exact ih h
      · split at h
        · rename_i hunassignable
          cases h
          rw [isUnassignable, Bool.and_eq_true, List.contains_iff_mem] at hunassignable
          exact hunassignable.2
        · exact ih h
      · cases h

/-- What the file of the profile assigns, if there is such a file. -/
def chosenAssignments (files : Dictionary (List UInt8)) (vars : Variables) : List (String × String) :=
  match files.get? (chosen vars) with
  | some bytes => assignments vars (splitLines bytes) []
  | none => []

theorem known_empty (vars : Variables) : Known .empty vars := by
  intro name hget
  cases hget

theorem vars_loadChosen (files : Dictionary (List UInt8)) (vars : Variables) :
    (loadChosen files vars).vars = vars.extend (chosenAssignments files vars) := by
  rw [loadChosen, chosenAssignments]
  cases files.get? (chosen vars) with
  | none => rfl
  | some bytes => exact vars_loadLines vars (splitLines bytes) [] .empty (known_empty _)

theorem loadChosen_again {files : Dictionary (List UInt8)} {vars : Variables}
    (hfault : (loadChosen files vars).fault = none)
    (hchosen : chosen (loadChosen files vars).vars = chosen vars) :
    loadChosen files (loadChosen files vars).vars = loadChosen files vars := by
  generalize hloaded : loadChosen files vars = loaded at hfault hchosen ⊢
  obtain ⟨after, fault⟩ := loaded
  rw [loadChosen] at hloaded
  dsimp only at hfault hchosen ⊢
  rw [loadChosen, hchosen]
  subst hfault
  cases hfile : files.get? (chosen vars) with
  | none => rfl
  | some bytes =>
    rw [hfile] at hloaded
    dsimp only at hloaded ⊢
    rw [load] at hloaded ⊢
    refine loadLines_again (known_empty vars) (known_empty after) (by rw [hloaded]) fun name hsome => ?_
    rw [hloaded] at hsome
    exact hsome

theorem chosen_eq (vars : Variables) :
    chosen vars =
      if vars.text? "PROFILE" = some "prod" then ".env.prod"
      else if vars.text? "PROFILE" = some "dev" ∨ vars.text? "PROFILE" = none then ".env.dev"
      else ".env" := by
  rw [chosen]
  cases vars.text? "PROFILE" with
  | none => rfl
  | some profile =>
    rw [Option.getD_some]
    split
    · rfl
    · rfl
    · rename_i hprod hdev
      rw [if_neg fun heq => hprod (Option.some.inj heq), if_neg]
      rintro (heq | heq)
      · exact hdev (Option.some.inj heq)
      · cases heq

/-- The environment wins over the file, and the environment alone chooses the file. What is there
afterwards is the environment with the assignments of this file, and the same file has nothing to add. -/
theorem environment_outlives_files (files : Dictionary (List UInt8)) (vars : Variables) :
    let loaded := loadChosen files vars
    let said := chosenAssignments files vars
    (∀ name, (vars.text? name).isSome → loaded.vars.get? name = vars.get? name) ∧
    (∀ name, vars.text? name = none →
      loaded.vars.get? name = ((said.lookup name).map Text.Utf8.encode).or (vars.get? name)) ∧
    chosen vars =
      (if vars.text? "PROFILE" = some "prod" then ".env.prod"
      else if vars.text? "PROFILE" = some "dev" ∨ vars.text? "PROFILE" = none then ".env.dev"
      else ".env") ∧
    (∀ files' : Dictionary (List UInt8), files'.get? (chosen vars) = files.get? (chosen vars) →
      loadChosen files' vars = loaded) ∧
    ContextSettings.ofVariables loaded.vars = ContextSettings.ofVariables (vars.extend said) ∧
    (∀ fault, loaded.fault = some fault → Char.ofNat 0 ∈ fault.value.toList) ∧
    (loaded.fault = none → chosen loaded.vars = chosen vars →
      loadChosen files loaded.vars = loaded) := by
  intro loaded said
  have hvars : loaded.vars = vars.extend said := vars_loadChosen files vars
  refine ⟨fun name htext => ?_, fun name htext => ?_, chosen_eq vars, fun files' hfile => ?_, ?_,
    fun fault hfault => ?_, loadChosen_again⟩
  · rw [hvars, Variables.get?_extend_of_text htext]
  · rw [hvars, Variables.get?_extend_of_no_text htext]
  · rw [loadChosen, hfile, ← loadChosen]
  · rw [hvars]
  · have hloaded : (loadChosen files vars).fault = some fault := hfault
    rw [loadChosen] at hloaded
    split at hloaded
    · exact mem_value_of_fault hloaded
    · cases hloaded

/-- A variable that is no text is not spared. -/
theorem file_replaces_octets :
    let vars : Variables := .ofList [("HOST", [0xff, 0x80])]
    let files : Dictionary (List UInt8) := .ofList [(".env.dev", Text.Utf8.encode "HOST=from-file\n")]
    vars.get? "HOST" = some [0xff, 0x80] ∧
    (loadChosen files vars).vars.get? "HOST" = some (Text.Utf8.encode "from-file") := by
  decide +kernel

end EnvFile

end RequestScope.Settings
