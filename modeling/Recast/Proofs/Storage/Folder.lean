import Recast.Storage.Folder
import Recast.Proofs.Outcome

/-!
# Changes of folders

Writing a file changes that file only, and making folders changes no file. In a folder that has more
folders than before a name leads where it led before.
-/

namespace Recast.Storage.Folder

variable {f g k : Folder} {route start : Route} {path : String} {content : List UInt8}

/-! ## Files -/

/-- Two folders with the same files in them. -/
def SameFiles (f g : Folder) : Prop := ∀ route, g.content? route = f.content? route

theorem SameFiles.refl (f : Folder) : f.SameFiles f := fun _ => rfl

/-- A folder after a file was written, and with no other change to a file. -/
structure Written (f g : Folder) (route : Route) (content : List UInt8) : Prop where
  content_eq : g.content? route = some content
  others : ∀ other, other ≠ route → g.content? other = f.content? other

theorem SameFiles.written (hfg : f.SameFiles g) (h : g.Written k route content) :
    f.Written k route content :=
  ⟨h.content_eq, fun other hne => (h.others other hne).trans (hfg other)⟩

theorem written_put (f : Folder) (route : Route) (content : List UInt8) :
    f.Written (f.put route content) route content where
  content_eq := List.lookup_cons_self
  others := by
    intro other hne
    have hcons : (f.put route content).content? other =
        (f.files.filter (·.1 != route)).lookup other := by
      simp only [content?, put, List.lookup_cons, beq_eq_false_iff_ne.mpr hne]
    rw [hcons, content?]
    induction f.files with
    | nil => rfl
    | cons file files ih =>
        obtain ⟨at', bytes⟩ := file
        by_cases hat : at' = route
        · subst hat
          rw [List.filter_cons_of_neg (by simp), ih, List.lookup_cons,
            beq_eq_false_iff_ne.mpr hne]
        · rw [List.filter_cons_of_pos (by simpa using hat), List.lookup_cons, List.lookup_cons, ih]

/-! ## Folders in folders -/

/-- A folder that has at least the folders of another one, seen from the same one. -/
structure Extends (f g : Folder) : Prop where
  hasFolder : ∀ route, f.hasFolder route = true → g.hasFolder route = true
  current_eq : g.current = f.current

theorem Extends.refl (f : Folder) : f.Extends f := ⟨fun _ h => h, rfl⟩

theorem Extends.trans (hfg : f.Extends g) (hgk : g.Extends k) : f.Extends k :=
  ⟨fun route hf => hgk.hasFolder route (hfg.hasFolder route hf),
    hgk.current_eq.trans hfg.current_eq⟩

theorem extends_put (f : Folder) (route : Route) (content : List UInt8) :
    f.Extends (f.put route content) := by
  refine ⟨fun r hr => ?_, rfl⟩
  simp only [Folder.hasFolder, put, Bool.or_eq_true, List.any_eq_true, List.any_cons] at hr ⊢
  rcases hr with hr | ⟨file, hfile, hr⟩
  · exact Or.inl hr
  · right
    by_cases hat : file.1 = route
    · exact Or.inl (hat ▸ hr)
    · exact Or.inr ⟨file, List.mem_filter.mpr ⟨hfile, by simpa using hat⟩, hr⟩

theorem extends_folder (f : Folder) (route : Route) :
    f.Extends { f with folders := route :: f.folders } := by
  refine ⟨fun r hr => ?_, rfl⟩
  simp only [Folder.hasFolder, Bool.or_eq_true, List.any_cons] at hr ⊢
  rcases hr with (hr | hr) | hr
  · exact Or.inl (Or.inl hr)
  · exact Or.inl (Or.inr (Or.inr hr))
  · exact Or.inr hr

theorem follow_eq_ok (hfg : f.Extends g) {segments : List String}
    (h : f.follow start segments = .ok route) : g.follow start segments = .ok route := by
  induction segments generalizing start with
  | nil => exact h
  | cons segment rest ih =>
      unfold follow at h ⊢
      cases hstart : f.hasFolder start with
      | false =>
          rw [hstart] at h
          cases h
      | true =>
          rw [hstart] at h
          rw [hfg.hasFolder start hstart]
          simp only [↓reduceIte] at h ⊢
          split at h
          · rename_i hstay
            rw [if_pos hstay]
            exact ih h
          · rename_i hgo
            rw [if_neg hgo]
            split at h
            · rename_i hup
              rw [if_pos hup]
              exact ih h
            · rename_i hdown
              rw [if_neg hdown]
              exact ih h

/-- Where a name leads, it leads in a folder with more folders. -/
theorem Extends.route_eq_ok (hfg : f.Extends g) (h : f.route path = .ok route) :
    g.route path = .ok route := by
  unfold Folder.route at h ⊢
  split at h
  · cases h
  · rename_i hsome
    rw [if_neg hsome, hfg.current_eq]
    exact follow_eq_ok hfg h

theorem makeAlong_eq_ok {segments : List String} (h : f.makeAlong start segments = .ok g) :
    g.files = f.files ∧ f.Extends g := by
  induction segments generalizing f start with
  | nil =>
      obtain rfl := Except.ok.inj h
      exact ⟨rfl, .refl _⟩
  | cons segment rest ih =>
      unfold makeAlong at h
      split at h
      · exact ih h
      · split at h
        · exact ih h
        · dsimp only at h
          split at h
          · exact ih h
          · split at h
            · cases h
            · obtain ⟨hfiles, hext⟩ := ih h
              exact ⟨hfiles, (extends_folder _ _).trans hext⟩

theorem makeParent_eq_ok (h : f.makeParent path = .ok g) : f.SameFiles g ∧ f.Extends g := by
  have hmade : g.files = f.files ∧ f.Extends g := by
    unfold makeParent at h
    split at h <;> exact makeAlong_eq_ok h
  exact ⟨fun route => by rw [content?, hmade.1, content?], hmade.2⟩

/-! ## Writing -/

/-- A file is written where its name leads before and after. -/
theorem write_eq_ok {text : String} (h : f.write path text = .ok g) :
    ∃ route, f.route path = .ok route ∧ g.route path = .ok route ∧
      f.Written g route (Text.Utf8.encode text) := by
  unfold write at h
  obtain ⟨route, hroute, h⟩ := bind_eq_ok h
  split at h
  · cases h
  · rename_i hbad
    cases h
    simp only [Bool.or_eq_true, not_or, Bool.not_eq_true, beq_eq_false_iff_ne] at hbad
    have hname : path.toList.reverse.dropWhile (· == '/') = path.toList.reverse := by
      cases hchars : path.toList.reverse with
      | nil => rfl
      | cons c cs =>
          rw [hchars] at hbad
          exact List.dropWhile_cons_of_neg (by simpa using hbad.2)
    rw [hname, List.reverse_reverse, String.ofList_toList, ite_self] at hroute
    exact ⟨route, hroute, (extends_put f route _).route_eq_ok hroute, written_put f route _⟩

theorem content?_of_not_contains (h : f.contains path = false) (hroute : f.route path = .ok route) :
    f.content? route = none := by
  unfold contains at h
  rw [hroute] at h
  simp only [Bool.or_eq_false_iff, Option.isSome_eq_false_iff, Option.isNone_iff_eq_none] at h
  exact h.2

end Recast.Storage.Folder
