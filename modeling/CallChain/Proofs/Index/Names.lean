import CallChain.Proofs.Index.Sites

/-!
# Sites and the names written for them

The callee of a site has the name that is written at the site, or is the constructor of a class so
named; a name that `from … import` binds stands for the last part of what is imported.  The only
sites of which this is not true are those of imported names that overstep: `from a.b.c import d`,
with a class `b` in module `a`, binds `d` to the method `c` of that class.
-/

namespace CallChain

open Python

/-- The routine is named as the expression says: as an attribute, as a name, or as the last part of
what the name is imported as. -/
def Resolver.AgreesWith (r : Resolver) (source : SourceModule) (constructs : Bool)
    (expression : Node) (routine : Routine) : Prop :=
  match expression with
  | .name _ id _ =>
    r.NamedAs constructs id routine ∨
      ∃ full, Assoc.get? id source.imports.members = some full ∧
        r.NamedAs constructs (Text.lastPart full) routine
  | .member _ _ attr _ => r.NamedAs constructs attr routine
  | _ => False

namespace Index

variable {index : Index}

/-- A mention is bound as its expression says, where constructions count for calls only. -/
theorem Regular.boundBy (hindex : index.Regular) {x : Mention} (hx : index.IsMention x) :
    ∃ ref, referenceAt? x.spot = some ref ∧
      index.resolver.BoundBy x.source (ref.kind == .call) ref.expression x.routine := by
  have hmeant := (Resolver.mem_meant_iff hx.2.1).mpr hx.2.2
  unfold Resolver.meant at hmeant
  split at hmeant
  · cases hmeant
  · rename_i ref href
    refine ⟨ref, href, ?_⟩
    unfold Resolver.targets at hmeant
    split at hmeant
    · rename_i hkind
      rw [hkind]
      exact (Resolver.declares_of_mem_resolve hindex.resolver.coherent hx.1 hmeant).2
    · rename_i hkind
      rw [hkind]
      exact (Resolver.declares_of_mem_resolve hindex.resolver.coherent hx.1 hmeant).2

/-- Every site is at a place whose expression, a name or an attribute, says how its callee is named,
or it is that of an imported name that oversteps. -/
theorem sites_named_as_written (settings : Settings) (root : Option String)
    (sources : List (String × String)) (hpaths : (sources.map Prod.fst).Nodup) :
    let index := ofSources settings root sources
    ∀ site ∈ index.sites, ∃ x ref, index.IsMention x ∧ index.Records x site ∧
      referenceAt? x.spot = some ref ∧
      (index.resolver.AgreesWith x.source (site.kind == .call) ref.expression site.callee ∨
        ∃ span id context full, ref.expression = .name span id context ∧
          Assoc.get? id x.source.imports.members = some full ∧
          index.resolver.Oversteps full site.callee) := by
  intro index site hsite
  have hindex : index.Regular := regular_ofSources settings root hpaths
  obtain ⟨x, hx, hrecords, -⟩ := hindex.exists_mention hsite
  obtain ⟨ref, href, hbound⟩ := hindex.boundBy hx
  refine ⟨x, ref, hx, hrecords, href, ?_⟩
  rw [hrecords.callee, hrecords.kind, ← (kindOf_of_referenceAt? href).1]
  unfold Resolver.BoundBy at hbound
  split at hbound
  · rename_i span id context hexpression
    rw [hexpression]
    rcases hbound with hnamed | ⟨full, hfull, hnamed | hover⟩
    · exact .inl (.inl hnamed)
    · exact .inl (.inr ⟨full, hfull, hnamed⟩)
    · exact .inr ⟨span, id, context, full, rfl, hfull, hover⟩
  · rename_i hexpression
    rw [hexpression]
    exact .inl hbound
  · exact hbound.elim

/-- A file that imports from a method of its own class. -/
def overstepping : List (String × String) :=
  [("a.py", "from a.b.c import d\n\nclass b:\n    def c(self):\n        return 1\n\nd()\n")]

/-- The names that a routine may have to which a plain name is bound. -/
def namesFor (source : SourceModule) (id : String) : List String :=
  id :: "__init__" :: ((Assoc.get? id source.imports.members).map Text.lastPart).toList

theorem name_of_agreesWith {r : Resolver} {source : SourceModule} {constructs : Bool} {span : Span}
    {id : String} {context : Context} {routine : Routine}
    (hagrees : r.AgreesWith source constructs (.name span id context) routine) :
    routine.name ∈ namesFor source id := by
  rcases hagrees with hnamed | ⟨full, hfull, hnamed⟩
  · cases hnamed with
    | named hname => simp [namesFor, hname]
    | constructed _ _ _ _ _ hname => simp [namesFor, hname]
  · cases hnamed with
    | named hname => simp [namesFor, hfull, hname]
    | constructed _ _ _ _ _ hname => simp [namesFor, hname]

/-- Whether a mention is by a plain name to which no routine of that name may be bound. -/
def isMisnamed (x : Mention) : Bool :=
  match (referenceAt? x.spot).map Reference.expression with
  | some (.name _ id _) => !(namesFor x.source id).contains x.routine.name
  | _ => false

theorem not_agreesWith_of_isMisnamed {r : Resolver} {x : Mention} {ref : Reference}
    {constructs : Bool} (hmisnamed : isMisnamed x = true) (href : referenceAt? x.spot = some ref) :
    ¬ r.AgreesWith x.source constructs ref.expression x.routine := by
  intro hagrees
  rw [isMisnamed, href, Option.map_some] at hmisnamed
  split at hmisnamed
  · rename_i hexpression
    rw [Option.some.inj hexpression] at hagrees
    have hname := name_of_agreesWith hagrees
    simp [hname] at hmisnamed
  · cases hmisnamed

theorem all_isMisnamed_overstepping :
    (ofSources {} none overstepping).mentions.all isMisnamed = true := by decide +kernel

theorem not_agreesWith_overstepping {site : CallSite} {x : Mention} {ref : Reference}
    (hx : (ofSources {} none overstepping).IsMention x)
    (hrecords : (ofSources {} none overstepping).Records x site)
    (href : referenceAt? x.spot = some ref) :
    ¬ (ofSources {} none overstepping).resolver.AgreesWith x.source (site.kind == .call)
      ref.expression site.callee := by
  rw [hrecords.callee]
  have hmisnamed := List.all_eq_true.mp all_isMisnamed_overstepping x (mem_mentions_iff.mpr hx)
  exact not_agreesWith_of_isMisnamed hmisnamed href

theorem exists_site_overstepping : ∃ site, site ∈ (ofSources {} none overstepping).sites := by
  have hlength : (ofSources {} none overstepping).sites.length = 1 := by decide +kernel
  exact List.exists_mem_of_length_pos (hlength ▸ Nat.one_pos)

theorem sites_named_as_written_of_overstepping :
    ∃ site ∈ (ofSources {} none overstepping).sites, ∃ x full,
      (ofSources {} none overstepping).Records x site ∧
        (ofSources {} none overstepping).resolver.Oversteps full site.callee := by
  obtain ⟨site, hsite⟩ := exists_site_overstepping
  obtain ⟨x, ref, hx, hrecords, href, hagrees | ⟨_, _, _, full, -, -, hover⟩⟩ :=
    sites_named_as_written {} none overstepping (by decide) site hsite
  · exact (not_agreesWith_overstepping hx hrecords href hagrees).elim
  · exact ⟨site, hsite, x, full, hrecords, hover⟩

/-- In the file that imports from a method, the call of `d` is bound to the method `c`. -/
theorem overstepping_misnames :
    ¬ ∀ site ∈ (ofSources {} none overstepping).sites, ∃ x ref,
      (ofSources {} none overstepping).IsMention x ∧ (ofSources {} none overstepping).Records x site ∧
        referenceAt? x.spot = some ref ∧
        (ofSources {} none overstepping).resolver.AgreesWith x.source (site.kind == .call)
          ref.expression site.callee := by
  intro hall
  obtain ⟨site, hsite⟩ := exists_site_overstepping
  obtain ⟨x, ref, hx, hrecords, href, hagrees⟩ := hall site hsite
  exact not_agreesWith_overstepping hx hrecords href hagrees

end Index

end CallChain
