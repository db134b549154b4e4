import Mathlib.Data.List.Basic

namespace Peg.QemuOpts

/-- QEMU's reading of a comma-separated option string (`get_opt_value`): a comma ends a
field, and a doubled comma stands for one literal comma inside the field. -/
def splitFields : List Char → List (List Char)
  | [] => [[]]
  | ',' :: ',' :: rest => consHead ',' (splitFields rest)
  | ',' :: rest => [] :: splitFields rest
  | c :: rest => consHead c (splitFields rest)
where
  consHead (c : Char) : List (List Char) → List (List Char)
    | [] => [[c]]
    | f :: fs => (c :: f) :: fs

def escape : List Char → List Char
  | [] => []
  | c :: cs => if c = ',' then ',' :: ',' :: escape cs else c :: escape cs

def joinFields : List (List Char) → List Char
  | [] => []
  | f :: fs => escape f ++ fs.flatMap (fun g => ',' :: escape g)

theorem splitFields_cons_of_ne {c : Char} (hc : c ≠ ',') (cs : List Char) :
    splitFields (c :: cs) = splitFields.consHead c (splitFields cs) := by
  rw [splitFields.eq_def]
  simp [hc]

theorem splitFields_comma_comma (cs : List Char) :
    splitFields (',' :: ',' :: cs) = splitFields.consHead ',' (splitFields cs) := by
  rw [splitFields]

theorem splitFields_comma {cs : List Char} (h : cs.head? ≠ some ',') :
    splitFields (',' :: cs) = [] :: splitFields cs := by
  rw [splitFields.eq_def]
  cases cs with
  | nil => rfl
  | cons c cs => 
    have hc : c ≠ ',' := fun e => h (by simp [e])
    simp [hc]


theorem splitFields_ne_nil (cs : List Char) : splitFields cs ≠ [] := by
  induction cs using splitFields.induct with
  | case1 => simp [splitFields]
  | case2 rest _ => rw [splitFields_comma_comma]; cases splitFields rest <;> simp [splitFields.consHead]
  | case3 rest h _ => rw [splitFields_comma (by cases rest <;> simp_all)]; simp
  | case4 c rest _ hc _ => rw [splitFields_cons_of_ne hc]; cases splitFields rest <;> simp [splitFields.consHead]

@[simp] theorem escape_nil : escape [] = [] := rfl

@[simp] theorem escape_cons_comma (cs : List Char) : escape (',' :: cs) = ',' :: ',' :: escape cs := by
  simp [escape]

theorem escape_cons_of_ne {c : Char} (hc : c ≠ ',') (cs : List Char) : escape (c :: cs) = c :: escape cs := by
  simp [escape, hc]

theorem joinFields_consHead (c : Char) {fs : List (List Char)} (h : fs ≠ []) :
    joinFields (splitFields.consHead c fs) = escape [c] ++ joinFields fs := by
  obtain ⟨f, fs, rfl⟩ := List.exists_cons_of_ne_nil h
  by_cases hc : c = ',' <;> simp [splitFields.consHead, joinFields, escape, hc]

/-- Writing back what QEMU read gives the option string again: nothing is lost in the
reading. -/
theorem joinFields_splitFields (cs : List Char) : joinFields (splitFields cs) = cs := by
  induction cs using splitFields.induct with
  | case1 => rfl
  | case2 rest ih =>
    rw [splitFields_comma_comma, joinFields_consHead _ (splitFields_ne_nil rest), ih]
    rfl
  | case3 rest h ih =>
    rw [splitFields_comma (by cases rest <;> simp_all)]
    obtain ⟨f, fs, hfs⟩ := List.exists_cons_of_ne_nil (splitFields_ne_nil rest)
    rw [hfs] at ih ⊢
    simpa [joinFields] using ih
  | case4 c rest _ hc ih =>
    rw [splitFields_cons_of_ne hc, joinFields_consHead _ (splitFields_ne_nil rest), ih,
      escape_cons_of_ne hc]
    rfl

theorem joinFields_cons_cons (f g : List Char) (fs : List (List Char)) :
    joinFields (f :: g :: fs) = escape f ++ ',' :: joinFields (g :: fs) := by
  simp [joinFields]

theorem length_le_escape (cs : List Char) : cs.length ≤ (escape cs).length := by
  induction cs with
  | nil => rfl
  | cons c cs ih => by_cases hc : c = ',' <;> simp [escape, hc] <;> omega

theorem escape_eq_self_iff (cs : List Char) : escape cs = cs ↔ ',' ∉ cs := by
  induction cs with
  | nil => simp [escape]
  | cons c cs ih =>
    by_cases hc : c = ','
    · subst hc
      have := length_le_escape cs
      simp only [escape_cons_comma, List.cons.injEq, true_and, List.mem_cons, true_or,
        not_true_eq_false, iff_false]
      intro h
      have := congrArg List.length h
      simp at this
      omega
    · simp [escape_cons_of_ne hc, ih, Ne.symm hc]

theorem splitFields_of_comma_not_mem {cs : List Char} (h : ',' ∉ cs) : splitFields cs = [cs] := by
  induction cs with
  | nil => rfl
  | cons c cs ih =>
    have hc : c ≠ ',' := fun e => h (by simp [e])
    rw [splitFields_cons_of_ne hc, ih (fun e => h (List.mem_cons_of_mem _ e))]
    rfl

theorem splitFields_append_comma {a b : List Char} (ha : ',' ∉ a) (hb : b.head? ≠ some ',') :
    splitFields (a ++ ',' :: b) = a :: splitFields b := by
  induction a with
  | nil => exact splitFields_comma hb
  | cons c a ih =>
    have hc : c ≠ ',' := fun e => ha (by simp [e])
    rw [List.cons_append, splitFields_cons_of_ne hc, ih (fun e => ha (List.mem_cons_of_mem _ e))]
    rfl

theorem splitFields_eq_singleton_iff (cs : List Char) : splitFields cs = [cs] ↔ ',' ∉ cs := by
  refine ⟨fun h => ?_, splitFields_of_comma_not_mem⟩
  have := joinFields_splitFields cs
  rw [h] at this
  exact (escape_eq_self_iff cs).mp (by simpa [joinFields] using this)

def decodeOpts (opts : String) : List String := (splitFields opts.data).map String.mk

def findOpt (key : List Char) : List (List Char) → Option (List Char)
  | [] => none
  | f :: fs => if (key ++ ['=']).isPrefixOf f then some (f.drop (key.length + 1)) else findOpt key fs

/-- The value QEMU reads for `key` in an option string: that of its first `key=value` field. -/
def lookupOpt (key opts : String) : Option String :=
  (findOpt key.data (splitFields opts.data)).map String.mk

def pairs : List String → List (String × String)
  | f :: v :: rest => (f, v) :: pairs rest
  | _ => []

def joinPairs (ps : List (String × String)) : List String := ps.flatMap (fun p => [p.1, p.2])

@[simp] theorem joinPairs_nil : joinPairs [] = [] := rfl

@[simp] theorem joinPairs_cons (p : String × String) (ps : List (String × String)) :
    joinPairs (p :: ps) = p.1 :: p.2 :: joinPairs ps := rfl

@[simp] theorem joinPairs_append (ps qs : List (String × String)) :
    joinPairs (ps ++ qs) = joinPairs ps ++ joinPairs qs := List.flatMap_append ..

@[simp] theorem pairs_joinPairs (ps : List (String × String)) : pairs (joinPairs ps) = ps := by
  induction ps with
  | nil => rfl
  | cons p ps ih => rw [joinPairs_cons, pairs, ih]

theorem findOpt_cons_key (key v : List Char) (fs : List (List Char)) :
    findOpt key ((key ++ '=' :: v) :: fs) = some v := by
  simp [findOpt, List.isPrefixOf_iff_prefix]

theorem findOpt_cons_other {key f : List Char} (h : (key ++ ['=']).isPrefixOf f = false)
    (fs : List (List Char)) : findOpt key (f :: fs) = findOpt key fs := by
  simp [findOpt, h]

theorem findOpt_cons_of_head_ne {key f : List Char} {c d : Char} (hk : key.head? = some c)
    (hf : f.head? = some d) (hcd : c ≠ d) (fs : List (List Char)) :
    findOpt key (f :: fs) = findOpt key fs := by
  cases key <;> cases f <;> simp_all [findOpt, List.isPrefixOf]

theorem head?_ne_comma {c : Char} (hc : c ≠ ',') (cs : List Char) : (c :: cs).head? ≠ some ',' := by
  simpa using hc

end Peg.QemuOpts
