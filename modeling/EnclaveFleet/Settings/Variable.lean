/-!
# Environment variables of the settings

* `Variable`: what can be set from outside
* `Variable.name`: under which name
* `Variable.name_injective`: no name sets two things
-/
namespace EnclaveFleet
set_option autoImplicit false

inductive Variable where
  | stackName
  | stackPrefix
  | deployAccount
  | defaultAccount
  | deployRegion
  | defaultRegion
  | instanceType
  | fleetSize
  | secretName
  | secretKeys
  | repoUrl
  | repoRef
  | bootMode
  | bootScript
  | production
  | listenerPort
  | natGateways
  | allowVpcHttps
deriving DecidableEq

namespace Variable

def all : List Variable := [.stackName, .stackPrefix, .deployAccount, .defaultAccount,
  .deployRegion, .defaultRegion, .instanceType, .fleetSize, .secretName, .secretKeys, .repoUrl,
  .repoRef, .bootMode, .bootScript, .production, .listenerPort, .natGateways, .allowVpcHttps]

def name : Variable → String
  | .stackName => "TEE_FLEET_STACK_NAME"
  | .stackPrefix => "CDK_PREFIX"
  | .deployAccount => "CDK_DEPLOY_ACCOUNT"
  | .defaultAccount => "CDK_DEFAULT_ACCOUNT"
  | .deployRegion => "CDK_DEPLOY_REGION"
  | .defaultRegion => "CDK_DEFAULT_REGION"
  | .instanceType => "TEE_FLEET_INSTANCE_TYPE"
  | .fleetSize => "TEE_FLEET_SIZE"
  | .secretName => "TEE_FLEET_SECRET_NAME"
  | .secretKeys => "TEE_FLEET_SECRET_KEYS"
  | .repoUrl => "TEE_FLEET_REPO_URL"
  | .repoRef => "TEE_FLEET_REPO_REF"
  | .bootMode => "TEE_FLEET_USER_DATA_MODE"
  | .bootScript => "TEE_FLEET_BOOTSTRAP_SCRIPT"
  | .production => "TEE_FLEET_PRODUCTION"
  | .listenerPort => "TEE_FLEET_LISTENER_PORT"
  | .natGateways => "TEE_FLEET_NAT_GATEWAYS"
  | .allowVpcHttps => "TEE_FLEET_ALLOW_VPC_HTTPS"

theorem name_injective (v w : Variable) (h : v.name = w.name) : v = w := by
  cases v <;> cases w <;> simp_all [name]

end Variable
end EnclaveFleet
