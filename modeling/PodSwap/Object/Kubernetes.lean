import PodSwap.Json.Written
import PodSwap.Object.Schema

/-!
# The schema of Kubernetes

The objects of the API of Kubernetes 1.30, with all the members that its reference has. A quantity
is a text; of the fields that a manager owns it is known that they nest.

A member is always written if it is one that is never absent. The server asks for more than these:
it takes no stateful set without the name of its service, but one is read without it, and is written
without it again.
-/

namespace PodSwap.Kubernetes

/-! ## Shapes -/

/-- Members of one shape. -/
def each (shape : Shape) (names : List String) : List (String × Shape) := names.map (·, shape)

/-- Members of which the first ones are always written. -/
def members (required optional : List (String × Shape)) : Members :=
  required.foldr (fun m rest => .always m.1 m.2 rest)
    (optional.foldr (fun m rest => .field m.1 m.2 rest) .nil)

/-- A record in which nothing has to be there. -/
def record (optional : List (String × Shape)) : Shape := .record (members [] optional)

/-- A record in which some members are always written. -/
def recordOf (required optional : List (String × Shape)) : Shape :=
  .record (members required optional)

/-- A list of texts. -/
def texts : Shape := .list .text

/-- A table of texts. -/
def textTable : Shape := .table .text

/-- Tables in tables, so many of them. -/
def nested : Nat → Shape
  | 0 => record []
  | n + 1 => .table (nested n)

/-! ## Metadata -/

def ownerReferenceRest : List (String × Shape) := [("blockOwnerDeletion", .flag)]

def managedFields : Shape :=
  .list (record (each .text ["apiVersion", "fieldsType", "manager", "operation", "subresource"] ++
    [("fieldsV1", nested Json.maxDepth), ("time", .instant)]))

def objectMetaRest : List (String × Shape) :=
  [("deletionGracePeriodSeconds", .int64), ("finalizers", texts), ("generateName", .text),
    ("generation", .int64), ("managedFields", managedFields), ("resourceVersion", .text),
    ("selfLink", .text)]

def ownerReference : Shape :=
  recordOf (each .text ["apiVersion", "kind", "name", "uid"])
    (("controller", .flag) :: ownerReferenceRest)

/-- The metadata of an object in another one. -/
def objectMeta : Shape :=
  record (each .text ["name", "namespace", "uid"] ++ each textTable ["annotations", "labels"] ++
    each .instant ["creationTimestamp", "deletionTimestamp"] ++
    [("ownerReferences", .list ownerReference)] ++ objectMetaRest)

/-! ## References and selectors -/

def requirement : Shape := recordOf (each .text ["key", "operator"]) [("values", texts)]

def labelSelectorRest : List (String × Shape) :=
  [("matchExpressions", .list requirement), ("matchLabels", textTable)]

def labelSelector : Shape := record labelSelectorRest

def localReference : Shape := record [("name", .text)]

def keyReference : Shape := recordOf [("key", .text)] [("name", .text), ("optional", .flag)]

def fieldReference : Shape := recordOf [("fieldPath", .text)] [("apiVersion", .text)]

def resourceFieldReference : Shape :=
  recordOf [("resource", .text)] (each .text ["containerName", "divisor"])

def keyToPath : Shape := recordOf (each .text ["key", "path"]) [("mode", .int32)]

/-! ## Security -/

def profile : Shape := recordOf [("type", .text)] [("localhostProfile", .text)]

def seLinuxOptions : Shape := record (each .text ["level", "role", "type", "user"])

def windowsOptions : Shape :=
  record (each .text ["gmsaCredentialSpec", "gmsaCredentialSpecName", "runAsUserName"] ++
    [("hostProcess", .flag)])

/-- What the security contexts of pods and of containers have in common. -/
def commonSecurity : List (String × Shape) :=
  each .int64 ["runAsGroup", "runAsUser"] ++
    [("appArmorProfile", profile), ("runAsNonRoot", .flag), ("seLinuxOptions", seLinuxOptions),
      ("seccompProfile", profile), ("windowsOptions", windowsOptions)]

def securityContext : Shape :=
  record (each .flag ["allowPrivilegeEscalation", "privileged", "readOnlyRootFilesystem"] ++
    [("capabilities", record (each texts ["add", "drop"])), ("procMount", .text)] ++
    commonSecurity)

def podSecurityContext : Shape :=
  record ([("fsGroup", .int64), ("fsGroupChangePolicy", .text),
    ("supplementalGroups", .list .int64),
    ("sysctls", .list (recordOf (each .text ["name", "value"]) []))] ++ commonSecurity)

/-! ## Containers -/

def exec : Shape := record [("command", texts)]

def httpGet : Shape :=
  recordOf [("port", .intOrText)] (each .text ["host", "path", "scheme"] ++
    [("httpHeaders", .list (recordOf (each .text ["name", "value"]) []))])

def tcpSocket : Shape := recordOf [("port", .intOrText)] [("host", .text)]

def lifecycleHandler : Shape :=
  record [("exec", exec), ("httpGet", httpGet), ("sleep", recordOf [("seconds", .int64)] []),
    ("tcpSocket", tcpSocket)]

def probe : Shape :=
  record ([("exec", exec), ("grpc", recordOf [("port", .int32)] [("service", .text)]),
    ("httpGet", httpGet), ("tcpSocket", tcpSocket), ("terminationGracePeriodSeconds", .int64)] ++
    each .int32 ["failureThreshold", "initialDelaySeconds", "periodSeconds", "successThreshold",
      "timeoutSeconds"])

def envVar : Shape :=
  recordOf [("name", .text)] [("value", .text),
    ("valueFrom", record [("configMapKeyRef", keyReference), ("fieldRef", fieldReference),
      ("resourceFieldRef", resourceFieldReference), ("secretKeyRef", keyReference)])]

def envFrom : Shape :=
  record (("prefix", .text) ::
    each (record [("name", .text), ("optional", .flag)]) ["configMapRef", "secretRef"])

def containerPort : Shape :=
  recordOf [("containerPort", .int32)]
    (("hostPort", .int32) :: each .text ["hostIP", "name", "protocol"])

def resources : Shape :=
  record (("claims", .list (recordOf [("name", .text)] [])) ::
    each textTable ["limits", "requests"])

def volumeMount : Shape :=
  recordOf (each .text ["mountPath", "name"])
    (("readOnly", .flag) ::
      each .text ["mountPropagation", "recursiveReadOnly", "subPath", "subPathExpr"])

def containerRest : List (String × Shape) :=
  each texts ["args", "command"] ++ each .flag ["stdin", "stdinOnce", "tty"] ++
    each .text ["imagePullPolicy", "restartPolicy", "terminationMessagePath",
      "terminationMessagePolicy", "workingDir"] ++
    each probe ["livenessProbe", "readinessProbe", "startupProbe"] ++
    [("env", .list envVar), ("envFrom", .list envFrom),
      ("lifecycle", record (each lifecycleHandler ["postStart", "preStop"])),
      ("ports", .list containerPort),
      ("resizePolicy", .list (recordOf (each .text ["resourceName", "restartPolicy"]) [])),
      ("resources", resources), ("securityContext", securityContext),
      ("volumeDevices", .list (recordOf (each .text ["devicePath", "name"]) [])),
      ("volumeMounts", .list volumeMount)]

def ephemeralContainer : Shape :=
  recordOf [("name", .text)] (each .text ["image", "targetContainerName"] ++ containerRest)

/-! ## Volumes -/

def claimSpec : Shape :=
  record (each .text ["storageClassName", "volumeAttributesClassName", "volumeMode",
      "volumeName"] ++
    [("accessModes", texts),
      ("dataSource", recordOf (each .text ["kind", "name"]) [("apiGroup", .text)]),
      ("dataSourceRef", recordOf (each .text ["kind", "name"])
        (each .text ["apiGroup", "namespace"])),
      ("resources", record (each textTable ["limits", "requests"])),
      ("selector", labelSelector)])

/-- What is said of conditions of any kind. -/
def condition (times : List String) : Shape :=
  recordOf (each .text ["status", "type"])
    (each .text ["message", "reason"] ++ each .instant times)

def claimStatus : Shape :=
  record (each .text ["currentVolumeAttributesClassName", "phase"] ++
    each textTable ["allocatedResourceStatuses", "allocatedResources", "capacity"] ++
    [("accessModes", texts),
      ("conditions", .list (condition ["lastProbeTime", "lastTransitionTime"])),
      ("modifyVolumeStatus", recordOf [("status", .text)]
        [("targetVolumeAttributesClassName", .text)])])

/-- A claim of a volume, with its kind. -/
def claim : Shape :=
  .record (.constant "apiVersion" "v1" (.constant "kind" "PersistentVolumeClaim"
    (members [("metadata", objectMeta)] [("spec", claimSpec), ("status", claimStatus)])))

def downwardItems : Shape :=
  .list (recordOf [("path", .text)] [("fieldRef", fieldReference), ("mode", .int32),
    ("resourceFieldRef", resourceFieldReference)])

def projection : Shape :=
  record
    [("clusterTrustBundle", recordOf [("path", .text)]
      [("labelSelector", labelSelector), ("name", .text), ("optional", .flag),
        ("signerName", .text)]),
      ("configMap", record
        [("items", .list keyToPath), ("name", .text), ("optional", .flag)]),
      ("downwardAPI", record [("items", downwardItems)]),
      ("secret", record [("items", .list keyToPath), ("name", .text), ("optional", .flag)]),
      ("serviceAccountToken", recordOf [("path", .text)]
        [("audience", .text), ("expirationSeconds", .int64)])]

/-- The volumes of one kind of storage. -/
def storage (required texts : List String) (others : List (String × Shape)) : Shape :=
  recordOf (each .text required) (each .text texts ++ others)

def readOnly : List (String × Shape) := [("readOnly", .flag)]

def secret : List (String × Shape) := [("readOnly", .flag), ("secretRef", localReference)]

def volumeSources : List (String × Shape) :=
  [("awsElasticBlockStore", storage ["volumeID"] ["fsType"] (("partition", .int32) :: readOnly)),
    ("azureDisk", storage ["diskName", "diskURI"] ["cachingMode", "fsType", "kind"] readOnly),
    ("azureFile", storage ["secretName", "shareName"] [] readOnly),
    ("cephfs", recordOf [("monitors", texts)]
      (each .text ["path", "secretFile", "user"] ++ secret)),
    ("cinder", storage ["volumeID"] ["fsType"] secret),
    ("configMap", record [("defaultMode", .int32), ("items", .list keyToPath), ("name", .text),
      ("optional", .flag)]),
    ("csi", storage ["driver"] ["fsType"] [("nodePublishSecretRef", localReference),
      ("readOnly", .flag), ("volumeAttributes", textTable)]),
    ("downwardAPI", record [("defaultMode", .int32), ("items", downwardItems)]),
    ("emptyDir", record (each .text ["medium", "sizeLimit"])),
    ("ephemeral", record [("volumeClaimTemplate",
      recordOf [("spec", claimSpec)] [("metadata", objectMeta)])]),
    ("fc", storage [] ["fsType"]
      (("lun", .int32) :: each texts ["targetWWNs", "wwids"] ++ readOnly)),
    ("flexVolume", storage ["driver"] ["fsType"] (("options", textTable) :: secret)),
    ("flocker", storage [] ["datasetName", "datasetUUID"] []),
    ("gcePersistentDisk", storage ["pdName"] ["fsType"] (("partition", .int32) :: readOnly)),
    ("gitRepo", storage ["repository"] ["directory", "revision"] []),
    ("glusterfs", storage ["endpoints", "path"] [] readOnly),
    ("hostPath", storage ["path"] ["type"] []),
    ("iscsi", recordOf (("lun", .int32) :: each .text ["iqn", "targetPortal"])
      (each .flag ["chapAuthDiscovery", "chapAuthSession"] ++
        each .text ["fsType", "initiatorName", "iscsiInterface"] ++
        ("portals", texts) :: secret)),
    ("nfs", storage ["path", "server"] [] readOnly),
    ("persistentVolumeClaim", storage ["claimName"] [] readOnly),
    ("photonPersistentDisk", storage ["pdID"] ["fsType"] []),
    ("portworxVolume", storage ["volumeID"] ["fsType"] readOnly),
    ("projected", record [("defaultMode", .int32), ("sources", .list projection)]),
    ("quobyte", storage ["registry", "volume"] ["group", "tenant", "user"] readOnly),
    ("rbd", recordOf [("image", .text), ("monitors", texts)]
      (each .text ["fsType", "keyring", "pool", "user"] ++ secret)),
    ("scaleIO", recordOf (("secretRef", localReference) :: each .text ["gateway", "system"])
      (each .text ["fsType", "protectionDomain", "storageMode", "storagePool", "volumeName"] ++
        each .flag ["readOnly", "sslEnabled"])),
    ("secret", record [("defaultMode", .int32), ("items", .list keyToPath), ("optional", .flag),
      ("secretName", .text)]),
    ("storageos", storage [] ["fsType", "volumeName", "volumeNamespace"] secret),
    ("vsphereVolume", storage ["volumePath"]
      ["fsType", "storagePolicyID", "storagePolicyName"] [])]

def volume : Shape := recordOf [("name", .text)] volumeSources

/-! ## Pods -/

def nodeSelectorTerm : Shape :=
  record (each (.list requirement) ["matchExpressions", "matchFields"])

def nodeAffinity : Shape :=
  record
    [("preferredDuringSchedulingIgnoredDuringExecution", .list
      (recordOf [("preference", nodeSelectorTerm), ("weight", .int32)] [])),
      ("requiredDuringSchedulingIgnoredDuringExecution",
        recordOf [("nodeSelectorTerms", .list nodeSelectorTerm)] [])]

def podAffinityTerm : Shape :=
  recordOf [("topologyKey", .text)]
    (each labelSelector ["labelSelector", "namespaceSelector"] ++
      each texts ["matchLabelKeys", "mismatchLabelKeys", "namespaces"])

def podAffinity : Shape :=
  record
    [("preferredDuringSchedulingIgnoredDuringExecution", .list
      (recordOf [("podAffinityTerm", podAffinityTerm), ("weight", .int32)] [])),
      ("requiredDuringSchedulingIgnoredDuringExecution", .list podAffinityTerm)]

def affinity : Shape :=
  record (("nodeAffinity", nodeAffinity) :: each podAffinity ["podAffinity", "podAntiAffinity"])

def dnsConfig : Shape :=
  record (("options", .list (record (each .text ["name", "value"]))) ::
    each texts ["nameservers", "searches"])

def toleration : Shape :=
  record (("tolerationSeconds", .int64) :: each .text ["effect", "key", "operator", "value"])

def topologySpreadConstraint : Shape :=
  recordOf (("maxSkew", .int32) :: each .text ["topologyKey", "whenUnsatisfiable"])
    (each .text ["nodeAffinityPolicy", "nodeTaintsPolicy"] ++
      [("labelSelector", labelSelector), ("matchLabelKeys", texts), ("minDomains", .int32)])

def podSpecRest : List (String × Shape) :=
  each .text ["dnsPolicy", "hostname", "nodeName", "preemptionPolicy", "priorityClassName",
      "restartPolicy", "runtimeClassName", "schedulerName", "serviceAccount",
      "serviceAccountName", "subdomain"] ++
    each .flag ["automountServiceAccountToken", "enableServiceLinks", "hostIPC", "hostNetwork",
      "hostPID", "hostUsers", "setHostnameAsFQDN", "shareProcessNamespace"] ++
    each .int64 ["activeDeadlineSeconds", "terminationGracePeriodSeconds"] ++
    each textTable ["nodeSelector", "overhead"] ++
    [("affinity", affinity), ("dnsConfig", dnsConfig),
      ("ephemeralContainers", .list ephemeralContainer),
      ("hostAliases", .list (recordOf [("ip", .text)] [("hostnames", texts)])),
      ("imagePullSecrets", .list localReference), ("os", recordOf [("name", .text)] []),
      ("priority", .int32),
      ("readinessGates", .list (recordOf [("conditionType", .text)] [])),
      ("resourceClaims", .list (recordOf [("name", .text)]
        [("source", record (each .text ["resourceClaimName", "resourceClaimTemplateName"]))])),
      ("schedulingGates", .list (recordOf [("name", .text)] [])),
      ("securityContext", podSecurityContext), ("tolerations", .list toleration),
      ("topologySpreadConstraints", .list topologySpreadConstraint), ("volumes", .list volume)]

def containerState : Shape :=
  record
    [("running", record [("startedAt", .instant)]),
      ("terminated", recordOf [("exitCode", .int32)]
        (each .text ["containerID", "message", "reason"] ++
          ("signal", .int32) :: each .instant ["finishedAt", "startedAt"])),
      ("waiting", record (each .text ["message", "reason"]))]

def containerStatus : Shape :=
  recordOf (each .text ["image", "imageID", "name"] ++
      [("ready", .flag), ("restartCount", .int32)])
    (each containerState ["lastState", "state"] ++
      [("allocatedResources", textTable), ("containerID", .text), ("resources", resources),
        ("started", .flag),
        ("volumeMounts", .list (recordOf (each .text ["mountPath", "name"])
          [("readOnly", .flag), ("recursiveReadOnly", .text)]))])

def podStatusRest : List (String × Shape) :=
  each .text ["hostIP", "message", "nominatedNodeName", "phase", "podIP", "qosClass", "reason",
      "resize"] ++
    each (.list containerStatus) ["containerStatuses", "ephemeralContainerStatuses",
      "initContainerStatuses"] ++
    each (.list (recordOf [("ip", .text)] [])) ["hostIPs", "podIPs"] ++
    [("conditions", .list (condition ["lastProbeTime", "lastTransitionTime"])),
      ("resourceClaimStatuses", .list
        (recordOf [("name", .text)] [("resourceClaimName", .text)])),
      ("startTime", .instant)]

/-! ## Workloads -/

def replicaSetSpecRest : List (String × Shape) := [("minReadySeconds", .int32)]

def replicaSetStatus : Members :=
  members [("replicas", .int32)]
    (each .int32 ["availableReplicas", "fullyLabeledReplicas", "readyReplicas"] ++
      [("conditions", .list (condition ["lastTransitionTime"])), ("observedGeneration", .int64)])

def deploymentSpecRest : List (String × Shape) :=
  each .int32 ["minReadySeconds", "progressDeadlineSeconds", "revisionHistoryLimit"] ++
    [("paused", .flag),
      ("strategy", record
        [("rollingUpdate", record (each .intOrText ["maxSurge", "maxUnavailable"])),
          ("type", .text)])]

def deploymentStatus : Members :=
  members []
    (each .int32 ["availableReplicas", "collisionCount", "readyReplicas", "replicas",
        "unavailableReplicas", "updatedReplicas"] ++
      [("conditions", .list (condition ["lastTransitionTime", "lastUpdateTime"])),
        ("observedGeneration", .int64)])

/-- The name of the service is a text that may be absent, and then it is not written. -/
def statefulSetSpecRest : List (String × Shape) :=
  each .int32 ["minReadySeconds", "revisionHistoryLimit"] ++
    each .text ["podManagementPolicy", "serviceName"] ++
    [("ordinals", record [("start", .int32)]),
      ("persistentVolumeClaimRetentionPolicy", record (each .text ["whenDeleted", "whenScaled"])),
      ("updateStrategy", record
        [("rollingUpdate", record [("maxUnavailable", .intOrText), ("partition", .int32)]),
          ("type", .text)]),
      ("volumeClaimTemplates", .list claim)]

def statefulSetStatus : Members :=
  members [("replicas", .int32)]
    (each .int32 ["availableReplicas", "collisionCount", "currentReplicas", "readyReplicas",
        "updatedReplicas"] ++
      each .text ["currentRevision", "updateRevision"] ++
      [("conditions", .list (condition ["lastTransitionTime"])), ("observedGeneration", .int64)])

/-! ## The schema -/

/-- The schema of Kubernetes 1.30. -/
instance schema : Schema where
  objectMeta := ⟨members [] objectMetaRest, by decide +kernel, by decide +kernel⟩
  ownerReference := ⟨members [] ownerReferenceRest, by decide +kernel, by decide +kernel⟩
  container := ⟨members [] containerRest, by decide +kernel, by decide +kernel⟩
  podSpec := ⟨members [] podSpecRest, by decide +kernel, by decide +kernel⟩
  podStatus := ⟨members [] podStatusRest, by decide +kernel, by decide +kernel⟩
  labelSelector := ⟨members [] labelSelectorRest, by decide +kernel, by decide +kernel⟩
  replicaSetSpec := ⟨members [] replicaSetSpecRest, by decide +kernel, by decide +kernel⟩
  replicaSetStatus := ⟨replicaSetStatus, by decide +kernel, by decide +kernel⟩
  deploymentSpec := ⟨members [] deploymentSpecRest, by decide +kernel, by decide +kernel⟩
  deploymentStatus := ⟨deploymentStatus, by decide +kernel, by decide +kernel⟩
  statefulSetSpec := ⟨members [] statefulSetSpecRest, by decide +kernel, by decide +kernel⟩
  statefulSetStatus := ⟨statefulSetStatus, by decide +kernel, by decide +kernel⟩
  labelSelector_optional := rfl
  replicaSetSpec_optional := rfl
  deploymentSpec_optional := rfl
  statefulSetSpec_optional := rfl

end PodSwap.Kubernetes
