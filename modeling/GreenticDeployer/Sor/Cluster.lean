import GreenticDeployer.Sor.Units
import Mathlib.Logic.Function.Basic

/-!
# The objects of a cluster

What the deployer applies to a namespace and prunes from it. Of a manifest the
model keeps what tells objects apart: their identity, the labels the deployer
reads back, and a Secret's type, which the API server never changes.
-/

set_option maxHeartbeats 200000

namespace GreenticDeployer.Sor

open Spec

structure ObjectRef where
  apiVersion : String
  kind : String
  namespaceName : Option String
  name : String
  deriving DecidableEq

/-- The component label, the `greentic.ai/sor-unit` label and the Secret type. -/
structure ClusterObject where
  component : String
  sorUnit : Option String
  secretType : Option String
  deriving DecidableEq

structure Manifest where
  ref : ObjectRef
  object : ClusterObject
  deriving DecidableEq

inductive SecretsBackend
  | devStore
  | vault
  deriving DecidableEq

/-- The answers that decide which objects exist. -/
structure K8sParams where
  namespaceName : String
  imagePullSecret : Option String
  ociPassword : Option String
  telemetryHeaders : Option String
  ingressHost : Option String
  secretsBackend : SecretsBackend

def isDeployment (manifest : Manifest) : Bool := manifest.ref.kind = "Deployment"

def isClusterScoped (manifest : Manifest) : Bool := manifest.ref.kind = "Namespace"

def routerName : String := "gtc-router"
def runtimeConfigMapName : String := "gtc-runtime-config"
def envStoreConfigMapName : String := "gtc-env-store"
def devSecretsSecretName : String := "gtc-dev-secrets"
def ociCredentialsSecretName : String := "gtc-oci-credentials"
def telemetryHeadersSecretName : String := "gtc-telemetry-headers"
def workerServiceAccount : String := "gtc-worker"
def ingressTlsSecretName : String := "gtc-router-tls"
def ingressComponent : String := "router-ingress"

/-- The fixed names, none of them a unit's. -/
def reservedObjectNames : List String :=
  [routerName, runtimeConfigMapName, envStoreConfigMapName, devSecretsSecretName,
    ociCredentialsSecretName, telemetryHeadersSecretName, workerServiceAccount,
    ingressTlsSecretName]

section Manifests

variable (params : K8sParams)

def namespaced (apiVersion kind name component : String) : Manifest :=
  ⟨⟨apiVersion, kind, some params.namespaceName, name⟩, ⟨component, none, none⟩⟩

def renderSecret (secretType name component : String) : Manifest :=
  ⟨⟨"v1", "Secret", some params.namespaceName, name⟩, ⟨component, none, some secretType⟩⟩

def renderNamespace : Manifest :=
  ⟨⟨"v1", "Namespace", none, params.namespaceName⟩, ⟨"namespace", none, none⟩⟩

def renderImagePullSecret (name : String) : Manifest :=
  renderSecret params "kubernetes.io/dockerconfigjson" name "image-pull-secret"

def networkPolicy (name : String) : Manifest :=
  namespaced params "networking.k8s.io/v1" "NetworkPolicy" name "network-policy"

def renderNetworkPolicies : List Manifest :=
  ["gtc-default-deny", "gtc-allow-dns", "gtc-allow-router", "gtc-allow-workers",
    "gtc-allow-worker-egress", "gtc-allow-router-egress"].map (networkPolicy params)

def envUsesDevSecrets (env : Environment) : Bool :=
  env.packs.any fun binding => binding.slot = .secrets

def renderDevSecretsSecret : Manifest :=
  renderSecret params "Opaque" devSecretsSecretName "dev-secrets"

def renderWorkerServiceAccount : Manifest :=
  namespaced params "v1" "ServiceAccount" workerServiceAccount "worker"

def renderIngress : Manifest :=
  namespaced params "networking.k8s.io/v1" "Ingress" routerName ingressComponent

/-- The secrets object: the values themselves, or the identity to fetch them by. -/
def renderSecretsBackend (env : Environment) : List Manifest :=
  match params.secretsBackend with
  | .devStore => if envUsesDevSecrets env then [renderDevSecretsSecret params] else []
  | .vault => [renderWorkerServiceAccount params]

def renderEnvironmentManifests (env : Environment) : List Manifest :=
  [renderNamespace params] ++ params.imagePullSecret.toList.map (renderImagePullSecret params) ++
    [namespaced params "v1" "ConfigMap" envStoreConfigMapName "env-store",
      namespaced params "v1" "ConfigMap" runtimeConfigMapName "router",
      namespaced params "apps/v1" "Deployment" routerName "router",
      namespaced params "v1" "Service" routerName "router",
      namespaced params "policy/v1" "PodDisruptionBudget" routerName "router"] ++
    renderNetworkPolicies params ++ renderSecretsBackend params env ++
    params.ociPassword.toList.map (fun _ =>
      renderSecret params "Opaque" ociCredentialsSecretName "oci-credentials") ++
    params.telemetryHeaders.toList.map (fun _ =>
      renderSecret params "Opaque" telemetryHeadersSecretName "telemetry-headers") ++
    params.ingressHost.toList.map fun _ => renderIngress params

def workerName (revision : Revision) : String :=
  "gtc-worker-" ++ revision.revisionId.toString.toLower

def renderWorkerManifests (revision : Revision) : List Manifest :=
  [namespaced params "apps/v1" "Deployment" (workerName revision) "worker",
    namespaced params "v1" "Service" (workerName revision) "worker"]

def hasClusterPresence : RevisionLifecycle → Bool
  | .warming | .ready | .draining => true
  | .inactive | .staged | .failed | .archived => false

/-- The whole desired state, without the SoR units. -/
def renderEnvironment (env : Environment) : List Manifest :=
  renderEnvironmentManifests params env ++
    (env.revisions.filter fun revision => hasClusterPresence revision.lifecycle).flatMap
      (renderWorkerManifests params)

def sorNamePrefix : String := "gtc-sor-"

def sorObjectName (unitId : String) : String := sorNamePrefix ++ unitId

def sorLabelled (apiVersion kind unitId : String) (secretType : Option String) : Manifest :=
  ⟨⟨apiVersion, kind, some params.namespaceName, sorObjectName unitId⟩,
    ⟨"sor", some unitId, secretType⟩⟩

/-- Apply order: the Secret the pod reads, then the Deployment, then the Service. -/
def renderSorManifests (unit : SorUnit) : List Manifest :=
  [sorLabelled params "v1" "Secret" unit.unitId (some "Opaque"),
    sorLabelled params "apps/v1" "Deployment" unit.unitId none,
    sorLabelled params "v1" "Service" unit.unitId none]

def sorPolicyNames : List String :=
  ["gtc-allow-sor-ingress", "gtc-allow-sor-egress", "gtc-allow-worker-to-sor"]

def renderSorNetworkPolicies : List Manifest := sorPolicyNames.map (networkPolicy params)

end Manifests

/-- A unit's objects in prune order, the pod first and the Secret last. -/
def sorObjectRefs (unitId namespaceName : String) : List ObjectRef :=
  [⟨"apps/v1", "Deployment", some namespaceName, sorObjectName unitId⟩,
    ⟨"v1", "Service", some namespaceName, sorObjectName unitId⟩,
    ⟨"v1", "Secret", some namespaceName, sorObjectName unitId⟩]

def sorPolicyRefs (namespaceName : String) : List ObjectRef :=
  sorPolicyNames.map fun name => ⟨"networking.k8s.io/v1", "NetworkPolicy", some namespaceName, name⟩

theorem sorObjectName_injective {unitId other : String}
    (same : sorObjectName unitId = sorObjectName other) : unitId = other := by
  have lists := congrArg String.toList same
  rw [sorObjectName, sorObjectName, String.toList_append, String.toList_append] at lists
  exact String.toList_inj.mp (List.append_cancel_left lists)

theorem mem_sorObjectRefs {ref : ObjectRef} {unitId namespaceName : String}
    (member : ref ∈ sorObjectRefs unitId namespaceName) :
    ref.namespaceName = some namespaceName ∧ ref.name = sorObjectName unitId := by
  simp only [sorObjectRefs, List.mem_cons, List.not_mem_nil, or_false] at member
  rcases member with rfl | rfl | rfl <;> exact ⟨rfl, rfl⟩

theorem sorObjectRefs_disjoint {ref : ObjectRef} {unitId other here there : String}
    (member : ref ∈ sorObjectRefs unitId here) (also : ref ∈ sorObjectRefs other there) :
    unitId = other ∧ here = there := by
  have one := mem_sorObjectRefs member
  have two := mem_sorObjectRefs also
  have names : sorObjectName unitId = sorObjectName other := one.2.symm.trans two.2
  have places : some here = some there := one.1.symm.trans two.1
  exact ⟨sorObjectName_injective names, Option.some.inj places⟩

theorem renderSorManifests_refs (params : K8sParams) (unit : SorUnit) (ref : ObjectRef) :
    (∃ manifest ∈ renderSorManifests params unit, manifest.ref = ref) ↔
      ref ∈ sorObjectRefs unit.unitId params.namespaceName := by
  simp only [renderSorManifests, sorLabelled, sorObjectRefs, List.mem_cons, List.not_mem_nil,
    or_false, exists_eq_or_imp, exists_eq_left]
  constructor
  · rintro (rfl | rfl | rfl) <;> simp
  · rintro (rfl | rfl | rfl) <;> simp

def sorSecretType (ref : ObjectRef) : Option String :=
  if ref.kind = "Secret" then some "Opaque" else none

theorem renderSorManifests_object {params : K8sParams} {unit : SorUnit} {manifest : Manifest}
    (member : manifest ∈ renderSorManifests params unit) :
    manifest.object = ⟨"sor", some unit.unitId, sorSecretType manifest.ref⟩ := by
  simp only [renderSorManifests, sorLabelled, List.mem_cons, List.not_mem_nil, or_false] at member
  rcases member with rfl | rfl | rfl <;> rfl

theorem not_mem_sorObjectRefs {ref : ObjectRef} (other : ref.name.toList[4]? ≠ some 's')
    (unitId namespaceName : String) : ref ∉ sorObjectRefs unitId namespaceName := by
  intro member
  have named := (mem_sorObjectRefs member).2
  rw [named, sorObjectName, String.toList_append] at other
  exact other rfl

/-- A manifest without a unit label that is of another name, or that the API
server refuses over a unit's object. -/
def SparesSor (manifest : Manifest) : Prop :=
  manifest.object.sorUnit = none ∧ ∀ unitId namespaceName,
    manifest.ref ∈ sorObjectRefs unitId namespaceName →
      manifest.object.secretType ≠ sorSecretType manifest.ref

theorem SparesSor.of_name {manifest : Manifest} (unlabelled : manifest.object.sorUnit = none)
    (other : manifest.ref.name.toList[4]? ≠ some 's') : SparesSor manifest :=
  ⟨unlabelled, fun unitId namespaceName member =>
    absurd member (not_mem_sorObjectRefs other unitId namespaceName)⟩

theorem reservedObjectNames_other : ∀ name ∈ reservedObjectNames, name.toList[4]? ≠ some 's' := by
  decide

theorem namespaced_spares (params : K8sParams) {apiVersion kind name component : String}
    (reserved : name ∈ reservedObjectNames) :
    SparesSor (namespaced params apiVersion kind name component) :=
  .of_name rfl (reservedObjectNames_other name reserved)

theorem renderSecret_spares (params : K8sParams) {secretType name component : String}
    (reserved : name ∈ reservedObjectNames) :
    SparesSor (renderSecret params secretType name component) :=
  .of_name rfl (reservedObjectNames_other name reserved)

theorem renderNamespace_spares (params : K8sParams) : SparesSor (renderNamespace params) := by
  refine ⟨rfl, fun unitId namespaceName member => ?_⟩
  have placed := (mem_sorObjectRefs member).1
  cases placed

theorem renderImagePullSecret_spares (params : K8sParams) (name : String) :
    SparesSor (renderImagePullSecret params name) := by
  refine ⟨rfl, fun unitId namespaceName _ => ?_⟩
  simp [renderImagePullSecret, renderSecret, sorSecretType]

theorem networkPolicy_spares (params : K8sParams) {name : String}
    (other : name.toList[4]? ≠ some 's') : SparesSor (networkPolicy params name) :=
  .of_name rfl other

theorem renderWorkerManifests_spare {params : K8sParams} {revision : Revision}
    {manifest : Manifest} (member : manifest ∈ renderWorkerManifests params revision) :
    SparesSor manifest ∧ manifest.ref.name.toList[4]? ≠ some 's' := by
  have named : (workerName revision).toList[4]? ≠ some 's' := by
    rw [workerName, String.toList_append]
    exact (by decide : (some 'w' : Option Char) ≠ some 's')
  simp only [renderWorkerManifests, List.mem_cons, List.not_mem_nil, or_false] at member
  rcases member with rfl | rfl
  · exact ⟨.of_name rfl named, named⟩
  · exact ⟨.of_name rfl named, named⟩

theorem renderNetworkPolicies_spare {params : K8sParams} {manifest : Manifest}
    (member : manifest ∈ renderNetworkPolicies params) : SparesSor manifest := by
  obtain ⟨name, listed, rfl⟩ := List.mem_map.mp member
  have names : ∀ name ∈ ["gtc-default-deny", "gtc-allow-dns", "gtc-allow-router",
      "gtc-allow-workers", "gtc-allow-worker-egress", "gtc-allow-router-egress"],
      name.toList[4]? ≠ some 's' := by decide
  exact networkPolicy_spares params (names name listed)

theorem sorPolicyNames_other : ∀ name ∈ sorPolicyNames, name.toList[4]? ≠ some 's' := by
  decide

theorem renderSorNetworkPolicies_spare {params : K8sParams} {manifest : Manifest}
    (member : manifest ∈ renderSorNetworkPolicies params) : SparesSor manifest := by
  obtain ⟨name, listed, rfl⟩ := List.mem_map.mp member
  exact networkPolicy_spares params (sorPolicyNames_other name listed)

theorem renderSecretsBackend_spare {params : K8sParams} {env : Environment} {manifest : Manifest}
    (member : manifest ∈ renderSecretsBackend params env) : SparesSor manifest := by
  unfold renderSecretsBackend at member
  split at member
  · split at member
    · rw [List.mem_singleton.mp member]
      exact renderSecret_spares params (by decide)
    · cases member
  · rw [List.mem_singleton.mp member]
    exact namespaced_spares params (by decide)

theorem renderEnvironmentManifests_spare {params : K8sParams} {env : Environment}
    {manifest : Manifest} (member : manifest ∈ renderEnvironmentManifests params env) :
    SparesSor manifest := by
  simp only [renderEnvironmentManifests, List.mem_append, List.mem_cons, List.not_mem_nil,
    or_false, List.mem_map] at member
  rcases member with (((((first | fixed) | policy) | backend) | oci) | telemetry) | ingress
  · rcases first with rfl | ⟨name, -, rfl⟩
    · exact renderNamespace_spares params
    · exact renderImagePullSecret_spares params name
  · rcases fixed with rfl | rfl | rfl | rfl | rfl <;>
      exact namespaced_spares params (by decide)
  · exact renderNetworkPolicies_spare policy
  · exact renderSecretsBackend_spare backend
  · obtain ⟨_, -, rfl⟩ := oci
    exact renderSecret_spares params (by decide)
  · obtain ⟨_, -, rfl⟩ := telemetry
    exact renderSecret_spares params (by decide)
  · obtain ⟨_, -, rfl⟩ := ingress
    exact namespaced_spares params (by decide)

theorem renderEnvironment_spares {params : K8sParams} {env : Environment} {manifest : Manifest}
    (member : manifest ∈ renderEnvironment params env) : SparesSor manifest := by
  rcases List.mem_append.mp member with ownSet | worker
  · exact renderEnvironmentManifests_spare ownSet
  · obtain ⟨revision, -, rendered⟩ := List.mem_flatMap.mp worker
    exact (renderWorkerManifests_spare rendered).1

end GreenticDeployer.Sor
