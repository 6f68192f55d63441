import Mathlib.Data.List.Basic
import Mathlib.Data.List.Nodup
import Mathlib.Data.List.Perm.Basic

/-!
# Nested frames

A log of a program whose calls nest: a call opens a frame, performs the actions that the frame
plans, one after another, and closes it, and during every action further calls can be made, which
nest in the same way. `Nested` is the grammar of such logs. In a nested log every frame that is
opened is closed (`Nested.closed_perm`), and the actions performed for a frame are those it plans,
in order, whatever happens in between, as long as frames can be told apart by a key
(`Nested.performed_eq`).
-/

namespace GmpRouter.Frames

variable {γ φ κ α : Type*}

/-- What an entry of a log does. -/
inductive Label (φ κ : Type*)
  | leaf
  | opens (f : φ)
  | performs (f : φ) (k : κ)
  | closes (f : φ)

def Label.opened : Label φ κ → Option φ
  | .opens f => some f
  | _ => none

def Label.closed : Label φ κ → Option φ
  | .closes f => some f
  | _ => none

/-- The action, when it is for a frame with the key. -/
def Label.performed [DecidableEq α] (key : φ → α) (a : α) : Label φ κ → Option κ
  | .performs f k => if key f = a then some k else none
  | _ => none

variable (label : γ → Label φ κ) (plan : φ → List κ)

/-- The logs of calls that nest. With a frame and a list of actions, the log is that of the frame
performing these actions. -/
inductive Nested : Option (φ × List κ) → List γ → Prop
  | nil : Nested none []
  | leaf {c : γ} {l : List γ} : label c = .leaf → Nested none l → Nested none (c :: l)
  | frame {c d : γ} {f : φ} {body l : List γ} : label c = .opens f →
      Nested (some (f, plan f)) body → label d = .closes f → Nested none l →
      Nested none (c :: (body ++ d :: l))
  | done {f : φ} : Nested (some (f, [])) []
  | perform {c : γ} {f : φ} {k : κ} {ks : List κ} {inner l : List γ} : label c = .performs f k →
      Nested none inner → Nested (some (f, ks)) l → Nested (some (f, k :: ks)) (c :: (inner ++ l))

/-- The frames that are opened, in this order. -/
def opened (l : List γ) : List φ := l.filterMap fun c => (label c).opened

def closed (l : List γ) : List φ := l.filterMap fun c => (label c).closed

/-- The actions that are performed for frames with the key. -/
def performed [DecidableEq α] (key : φ → α) (a : α) (l : List γ) : List κ :=
  l.filterMap fun c => (label c).performed key a

variable {label plan} {l l' : List γ} {m : Option (φ × List κ)} {f : φ}

@[simp] theorem opened_append : opened label (l ++ l') = opened label l ++ opened label l' :=
  List.filterMap_append

@[simp] theorem closed_append : closed label (l ++ l') = closed label l ++ closed label l' :=
  List.filterMap_append

@[simp] theorem performed_append [DecidableEq α] {key : φ → α} {a : α} :
    performed label key a (l ++ l') = performed label key a l ++ performed label key a l' :=
  List.filterMap_append

theorem opened_cons (c : γ) : opened label (c :: l) =
    (label c).opened.toList ++ opened label l := by
  rw [opened, List.filterMap_cons]
  cases (label c).opened <;> rfl

theorem closed_cons (c : γ) : closed label (c :: l) =
    (label c).closed.toList ++ closed label l := by
  rw [closed, List.filterMap_cons]
  cases (label c).closed <;> rfl

theorem performed_cons [DecidableEq α] {key : φ → α} {a : α} (c : γ) :
    performed label key a (c :: l) =
      ((label c).performed key a).toList ++ performed label key a l := by
  rw [performed, List.filterMap_cons]
  cases (label c).performed key a <;> rfl

section Entries

variable {c d : γ} {body inner : List γ} {k : κ}

theorem opened_frame (hc : label c = .opens f) (hd : label d = .closes f) :
    opened label (c :: (body ++ d :: l)) = f :: (opened label body ++ opened label l) := by
  simp [opened_cons, hc, hd, Label.opened]

theorem opened_perform (hc : label c = .performs f k) :
    opened label (c :: (inner ++ l)) = opened label inner ++ opened label l := by
  simp [opened_cons, hc, Label.opened]

theorem performed_frame [DecidableEq α] {key : φ → α} {a : α} (hc : label c = .opens f)
    (hd : label d = .closes f) : performed label key a (c :: (body ++ d :: l)) =
      performed label key a body ++ performed label key a l := by
  simp [performed_cons, hc, hd, Label.performed]

theorem performed_perform [DecidableEq α] {key : φ → α} {a : α} (hc : label c = .performs f k) :
    performed label key a (c :: (inner ++ l)) = (if key f = a then [k] else []) ++
      (performed label key a inner ++ performed label key a l) := by
  rw [performed_cons, performed_append, hc, Label.performed]
  split <;> rfl

end Entries

namespace Nested

theorem append (h : Nested label plan none l) (h' : Nested label plan none l') :
    Nested label plan none (l ++ l') := by
  generalize hm : none = m at h
  induction h with
  | nil => exact h'
  | leaf hc _ ih => exact .leaf hc (ih hm)
  | @frame c d f body l hc hbody hd _ _ ih =>
    rw [List.cons_append, List.append_assoc, List.cons_append]
    exact .frame hc hbody hd (ih hm)
  | done | perform => cases hm

/-- **Every frame is closed.** -/
theorem closed_perm (h : Nested label plan m l) : (closed label l).Perm (opened label l) := by
  induction h with
  | nil | done => exact .refl _
  | leaf hc _ ih => simpa [opened_cons, closed_cons, hc, Label.opened, Label.closed] using ih
  | @frame c d f body l hc _ hd _ ihbody ih =>
    have hclosed : closed label (c :: (body ++ d :: l)) =
        closed label body ++ f :: closed label l := by
      simp [closed_cons, hc, hd, Label.closed]
    rw [opened_frame hc hd, hclosed]
    exact List.perm_middle.trans ((ihbody.append ih).cons f)
  | perform hc _ _ ihinner ih =>
    simpa [opened_cons, closed_cons, hc, Label.opened, Label.closed] using ihinner.append ih

/-- Actions are performed for frames that are open or opened. -/
theorem mem_of_performs (h : Nested label plan m l) {c : γ} (hc : c ∈ l) {k : κ}
    (hlabel : label c = .performs f k) : f ∈ opened label l ∨ ∃ ks, m = some (f, ks) := by
  induction h with
  | nil | done => simp at hc
  | @leaf d l hd _ ih =>
    rcases List.mem_cons.1 hc with rfl | hc
    · rw [hd] at hlabel
      cases hlabel
    · exact .inl (by simpa [opened_cons, hd, Label.opened] using ih hc)
  | @frame d e g body l hd _ he _ ihbody ih =>
    left
    rw [opened_frame hd he]
    rcases List.mem_cons.1 hc with rfl | hc
    · rw [hd] at hlabel
      cases hlabel
    rcases List.mem_append.1 hc with hc | hc
    · rcases ihbody hc with hf | ⟨ks, hf⟩
      · exact List.mem_cons_of_mem _ (List.mem_append_left _ hf)
      · obtain ⟨rfl, -⟩ := Prod.mk.inj (Option.some.inj hf)
        exact List.mem_cons_self ..
    rcases List.mem_cons.1 hc with rfl | hc
    · rw [he] at hlabel
      cases hlabel
    · rcases ih hc with hf | ⟨ks, hf⟩
      · exact List.mem_cons_of_mem _ (List.mem_append_right _ hf)
      · cases hf
  | @perform d g k' ks inner l hd _ _ ihinner ih =>
    rw [opened_perform hd]
    rcases List.mem_cons.1 hc with rfl | hc
    · rw [hd] at hlabel
      cases hlabel
      exact .inr ⟨_, rfl⟩
    rcases List.mem_append.1 hc with hc | hc
    · rcases ihinner hc with hf | ⟨ks', hf⟩
      · exact .inl (List.mem_append_left _ hf)
      · cases hf
    · rcases ih hc with hf | ⟨ks', hf⟩
      · exact .inl (List.mem_append_right _ hf)
      · obtain ⟨rfl, -⟩ := Prod.mk.inj (Option.some.inj hf)
        exact .inr ⟨_, rfl⟩

section Keys

variable [DecidableEq α] {key : φ → α} {a : α}

theorem performed_eq_nil (h : Nested label plan m l) (hopened : a ∉ (opened label l).map key)
    (hm : ∀ f ks, m = some (f, ks) → key f ≠ a) : performed label key a l = [] := by
  refine List.filterMap_eq_nil_iff.2 fun c hc => ?_
  cases hlabel : label c with
  | performs f k =>
    refine if_neg fun hkey => ?_
    rcases h.mem_of_performs hc hlabel with hf | ⟨ks, hf⟩
    · exact hopened (hkey ▸ List.mem_map_of_mem hf)
    · exact hm f ks hf hkey
  | _ => rfl

/-- **The actions performed for a frame are those that it plans**, when no other frame has its
key. -/
theorem performed_eq (h : Nested label plan m l) (hnodup : ((opened label l).map key).Nodup)
    (hm : ∀ f ks, m = some (f, ks) → key f ∉ (opened label l).map key) :
    (∀ f ∈ opened label l, performed label key (key f) l = plan f) ∧
      ∀ f ks, m = some (f, ks) → performed label key (key f) l = ks := by
  induction h with
  | nil => exact ⟨nofun, nofun⟩
  | done =>
    refine ⟨nofun, ?_⟩
    rintro f ks ⟨⟩
    rfl
  | @leaf c l hc _ ih =>
    have hopened : opened label (c :: l) = opened label l := by
      simp [opened_cons, hc, Label.opened]
    have hperformed : ∀ a, performed label key a (c :: l) = performed label key a l := by
      simp [performed_cons, hc, Label.performed]
    rw [hopened] at hnodup ⊢
    simp only [hperformed]
    exact ih hnodup nofun
  | @frame c d f body l hc hbody hd hrest ihbody ih =>
    rw [opened_frame hc hd, List.map_cons, List.map_append, List.nodup_cons, List.mem_append,
      not_or, List.nodup_append'] at hnodup
    obtain ⟨⟨hfbody, hfrest⟩, hbodyNodup, hrestNodup, hdisjoint⟩ := hnodup
    obtain ⟨ihopened, ihframe⟩ := ihbody hbodyNodup (by rintro _ _ ⟨⟩; exact hfbody)
    refine ⟨fun g hg => ?_, nofun⟩
    rw [opened_frame hc hd, List.mem_cons, List.mem_append] at hg
    rw [performed_frame hc hd]
    rcases hg with rfl | hg | hg
    · rw [ihframe g _ rfl, hrest.performed_eq_nil hfrest nofun, List.append_nil]
    · have hkey : key g ∈ (opened label body).map key := List.mem_map_of_mem hg
      rw [ihopened g hg, hrest.performed_eq_nil (fun h => hdisjoint hkey h) nofun, List.append_nil]
    · have hkey : key g ∈ (opened label l).map key := List.mem_map_of_mem hg
      have hnone : performed label key (key g) body = [] := by
        refine hbody.performed_eq_nil (fun h => hdisjoint h hkey) ?_
        rintro _ _ ⟨⟩ heq
        exact hfrest (heq ▸ hkey)
      rw [hnone, List.nil_append, (ih hrestNodup nofun).1 g hg]
  | @perform c f k ks inner l hc hinner hrest ihinner ih =>
    have hf := hm f _ rfl
    rw [opened_perform hc, List.map_append, List.nodup_append'] at hnodup
    rw [opened_perform hc, List.map_append, List.mem_append, not_or] at hf
    obtain ⟨hinnerNodup, hrestNodup, hdisjoint⟩ := hnodup
    obtain ⟨ihopened, ihframe⟩ := ih hrestNodup (by rintro _ _ ⟨⟩; exact hf.2)
    constructor
    · intro g hg
      rw [opened_perform hc, List.mem_append] at hg
      have hne : key f ≠ key g := by
        intro heq
        rcases hg with hg | hg
        · exact hf.1 (heq ▸ List.mem_map_of_mem hg)
        · exact hf.2 (heq ▸ List.mem_map_of_mem hg)
      rw [performed_perform hc, if_neg hne, List.nil_append]
      rcases hg with hg | hg
      · have hkey : key g ∈ (opened label inner).map key := List.mem_map_of_mem hg
        have hnone : performed label key (key g) l = [] := by
          refine hrest.performed_eq_nil (fun h => hdisjoint hkey h) ?_
          rintro _ _ ⟨⟩
          exact hne
        rw [(ihinner hinnerNodup nofun).1 g hg, hnone, List.append_nil]
      · have hkey : key g ∈ (opened label l).map key := List.mem_map_of_mem hg
        rw [hinner.performed_eq_nil (fun h => hdisjoint h hkey) nofun, List.nil_append,
          ihopened g hg]
    · rintro _ _ ⟨⟩
      rw [performed_perform hc, if_pos rfl, hinner.performed_eq_nil hf.1 nofun, List.nil_append,
        ihframe f ks rfl, List.singleton_append]

end Keys

end Nested

/-- The only entry of a list with its key. -/
theorem filter_key_eq [DecidableEq α] {key : φ → α} {fs : List φ} (h : (fs.map key).Nodup)
    (hf : f ∈ fs) : fs.filter (fun g => key g = key f) = [f] := by
  induction fs with
  | nil => cases hf
  | cons g fs ih =>
    rw [List.map_cons, List.nodup_cons] at h
    obtain ⟨hg, hnodup⟩ := h
    rcases List.mem_cons.1 hf with rfl | hf
    · rw [List.filter_cons_of_pos (by simp), List.filter_eq_nil_iff.2]
      intro g' hg' heq
      exact hg (of_decide_eq_true heq ▸ List.mem_map_of_mem hg')
    · have hne : key g ≠ key f := fun heq => hg (heq ▸ List.mem_map_of_mem hf)
      rw [List.filter_cons_of_neg (by simpa using hne), ih hnodup hf]

end GmpRouter.Frames
