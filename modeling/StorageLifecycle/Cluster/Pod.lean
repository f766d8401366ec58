import StorageLifecycle.Cluster.Claim
import StorageLifecycle.Cluster.Volume

/-!
# Pods of the cluster
-/

namespace StorageLifecycle.ClusterPod

open Json Decoder Schema

/-! ## Containers -/

def keySelector : Shape := fields [("key", aText), ("name", aText), ("optional", aTruth)]

def fieldSelector : Shape := fields [("apiVersion", aText), ("fieldPath", aText)]

def resourceSelector : Shape :=
  fields [("containerName", aText), ("divisor", aText), ("resource", aText)]

def environmentVariable : Shape :=
  fields [("name", aText), ("value", aText),
    ("valueFrom", fields [("configMapKeyRef", keySelector), ("fieldRef", fieldSelector),
      ("resourceFieldRef", resourceSelector), ("secretKeyRef", keySelector)])]

def optionalReference : Shape := fields [("name", aText), ("optional", aTruth)]

def environmentSource : Shape :=
  fields [("configMapRef", optionalReference), ("prefix", aText), ("secretRef", optionalReference)]

def command : Shape := fields [("command", texts)]

def webRequest : Shape :=
  fields [("host", aText),
    ("httpHeaders", listOf (fields [("name", aText), ("value", aText)])),
    ("path", aText), ("port", aNumberOrText), ("scheme", aText)]

def socket : Shape := fields [("host", aText), ("port", aNumberOrText)]

def probe : Shape :=
  fields [("exec", command), ("failureThreshold", aNumber),
    ("grpc", fields [("port", aNumber), ("service", aText)]), ("httpGet", webRequest),
    ("initialDelaySeconds", aNumber), ("periodSeconds", aNumber), ("successThreshold", aNumber),
    ("tcpSocket", socket), ("terminationGracePeriodSeconds", aLongNumber),
    ("timeoutSeconds", aNumber)]

def hook : Shape :=
  fields [("exec", command), ("httpGet", webRequest), ("sleep", fields [("seconds", aLongNumber)]),
    ("tcpSocket", socket)]

def resources : Shape :=
  fields [("claims", listOf (fields [("name", aText), ("request", aText)])), ("limits", textMap),
    ("requests", textMap)]

def profile : Shape := fields [("localhostProfile", aText), ("type", aText)]

def seLinux : Shape := fields [("level", aText), ("role", aText), ("type", aText), ("user", aText)]

def windows : Shape :=
  fields [("gmsaCredentialSpec", aText), ("gmsaCredentialSpecName", aText),
    ("hostProcess", aTruth), ("runAsUserName", aText)]

def containerSecurity : Shape :=
  fields [("allowPrivilegeEscalation", aTruth), ("appArmorProfile", profile),
    ("capabilities", fields [("add", texts), ("drop", texts)]), ("privileged", aTruth),
    ("procMount", aText), ("readOnlyRootFilesystem", aTruth), ("runAsGroup", aLongNumber),
    ("runAsNonRoot", aTruth), ("runAsUser", aLongNumber), ("seLinuxOptions", seLinux),
    ("seccompProfile", profile), ("windowsOptions", windows)]

def volumeMount : Shape :=
  fields [("mountPath", aText), ("mountPropagation", aText), ("name", aText), ("readOnly", aTruth),
    ("recursiveReadOnly", aText), ("subPath", aText), ("subPathExpr", aText)]

def port : Shape :=
  fields [("containerPort", aNumber), ("hostIP", aText), ("hostPort", aNumber), ("name", aText),
    ("protocol", aText)]

/-- The properties of a container of any sort. -/
def containerProperties : List (String × Shape) :=
  [("args", texts), ("command", texts), ("env", listOf environmentVariable),
    ("envFrom", listOf environmentSource), ("image", aText), ("imagePullPolicy", aText),
    ("lifecycle", fields [("postStart", hook), ("preStop", hook)]), ("livenessProbe", probe),
    ("name", aText), ("ports", listOf port), ("readinessProbe", probe),
    ("resizePolicy", listOf (fields [("resourceName", aText), ("restartPolicy", aText)])),
    ("resources", resources), ("restartPolicy", aText), ("securityContext", containerSecurity),
    ("startupProbe", probe), ("stdin", aTruth), ("stdinOnce", aTruth),
    ("terminationMessagePath", aText), ("terminationMessagePolicy", aText), ("tty", aTruth),
    ("volumeDevices", listOf (fields [("devicePath", aText), ("name", aText)])),
    ("volumeMounts", listOf volumeMount), ("workingDir", aText)]

def container : Shape := fields containerProperties

/-- A container that is put into a running pod, beside another one. -/
def ephemeralContainer : Shape := fields (("targetContainerName", aText) :: containerProperties)

/-! ## Volumes -/

def keyToPath : Shape := fields [("key", aText), ("mode", aNumber), ("path", aText)]

def downwardFile : Shape :=
  fields [("fieldRef", fieldSelector), ("mode", aNumber), ("path", aText),
    ("resourceFieldRef", resourceSelector)]

/-- What is put together in a projected volume. -/
def projection : Shape :=
  fields [("clusterTrustBundle", fields [("labelSelector", Affinity.labelSelector),
      ("name", aText), ("optional", aTruth), ("path", aText), ("signerName", aText)]),
    ("configMap", fields [("items", listOf keyToPath), ("name", aText), ("optional", aTruth)]),
    ("downwardAPI", fields [("items", listOf downwardFile)]),
    ("secret", fields [("items", listOf keyToPath), ("name", aText), ("optional", aTruth)]),
    ("serviceAccountToken", fields [("audience", aText), ("expirationSeconds", aLongNumber),
      ("path", aText)])]

def volume : Shape :=
  fields [("awsElasticBlockStore", Volume.elasticBlock), ("azureDisk", Volume.azureDisk),
    ("azureFile", Volume.azureFile []), ("cephfs", Volume.ceph Volume.localReference),
    ("cinder", Volume.cinder Volume.localReference),
    ("configMap", fields [("defaultMode", aNumber), ("items", listOf keyToPath), ("name", aText),
      ("optional", aTruth)]),
    ("csi", Volume.driver),
    ("downwardAPI", fields [("defaultMode", aNumber), ("items", listOf downwardFile)]),
    ("emptyDir", fields [("medium", aText), ("sizeLimit", aText)]),
    ("ephemeral", fields [("volumeClaimTemplate", fields [("metadata", Metadata.shape),
      ("spec", ClusterClaim.specShape)])]),
    ("fc", Volume.fibreChannel), ("flexVolume", Volume.flexible Volume.localReference),
    ("flocker", Volume.flocker), ("gcePersistentDisk", Volume.persistentDisk),
    ("gitRepo", fields [("directory", aText), ("repository", aText), ("revision", aText)]),
    ("glusterfs", Volume.gluster []), ("hostPath", Volume.hostPath),
    ("image", fields [("pullPolicy", aText), ("reference", aText)]),
    ("iscsi", Volume.iscsi Volume.localReference), ("name", aText), ("nfs", Volume.networkFiles),
    ("persistentVolumeClaim", fields [("claimName", aText), ("readOnly", aTruth)]),
    ("photonPersistentDisk", Volume.photonDisk), ("portworxVolume", Volume.portworx),
    ("projected", fields [("defaultMode", aNumber), ("sources", listOf projection)]),
    ("quobyte", Volume.quobyte), ("rbd", Volume.rados Volume.localReference),
    ("scaleIO", Volume.scaleIO Volume.localReference),
    ("secret", fields [("defaultMode", aNumber), ("items", listOf keyToPath),
      ("optional", aTruth), ("secretName", aText)]),
    ("storageos", Volume.storageOS Volume.localReference), ("vsphereVolume", Volume.virtualDisk)]

/-! ## The specification -/

def podSecurity : Shape :=
  fields [("appArmorProfile", profile), ("fsGroup", aLongNumber), ("fsGroupChangePolicy", aText),
    ("runAsGroup", aLongNumber), ("runAsNonRoot", aTruth), ("runAsUser", aLongNumber),
    ("seLinuxChangePolicy", aText), ("seLinuxOptions", seLinux), ("seccompProfile", profile),
    ("supplementalGroups", listOf aLongNumber), ("supplementalGroupsPolicy", aText),
    ("sysctls", listOf (fields [("name", aText), ("value", aText)])), ("windowsOptions", windows)]

def toleration : Shape :=
  fields [("effect", aText), ("key", aText), ("operator", aText),
    ("tolerationSeconds", aLongNumber), ("value", aText)]

def spreadConstraint : Shape :=
  fields [("labelSelector", Affinity.labelSelector), ("matchLabelKeys", texts),
    ("maxSkew", aNumber), ("minDomains", aNumber), ("nodeAffinityPolicy", aText),
    ("nodeTaintsPolicy", aText), ("topologyKey", aText), ("whenUnsatisfiable", aText)]

def spec : Shape :=
  fields [("activeDeadlineSeconds", aLongNumber),
    ("affinity", Affinity.shape),
    ("automountServiceAccountToken", aTruth), ("containers", listOf container),
    ("dnsConfig", fields [("nameservers", texts),
      ("options", listOf (fields [("name", aText), ("value", aText)])), ("searches", texts)]),
    ("dnsPolicy", aText), ("enableServiceLinks", aTruth),
    ("ephemeralContainers", listOf ephemeralContainer),
    ("hostAliases", listOf (fields [("hostnames", texts), ("ip", aText)])), ("hostIPC", aTruth),
    ("hostNetwork", aTruth), ("hostPID", aTruth), ("hostUsers", aTruth), ("hostname", aText),
    ("imagePullSecrets", listOf Volume.localReference), ("initContainers", listOf container),
    ("nodeName", aText), ("nodeSelector", textMap), ("os", Volume.localReference),
    ("overhead", textMap), ("preemptionPolicy", aText), ("priority", aNumber),
    ("priorityClassName", aText),
    ("readinessGates", listOf (fields [("conditionType", aText)])),
    ("resourceClaims", listOf (fields [("name", aText), ("resourceClaimName", aText),
      ("resourceClaimTemplateName", aText)])),
    ("resources", resources), ("restartPolicy", aText), ("runtimeClassName", aText),
    ("schedulerName", aText), ("schedulingGates", listOf Volume.localReference),
    ("securityContext", podSecurity), ("serviceAccount", aText), ("serviceAccountName", aText),
    ("setHostnameAsFQDN", aTruth), ("shareProcessNamespace", aTruth), ("subdomain", aText),
    ("terminationGracePeriodSeconds", aLongNumber), ("tolerations", listOf toleration),
    ("topologySpreadConstraints", listOf spreadConstraint), ("volumes", listOf volume)]

/-! ## The status -/

/-- A condition: its type, and how it stands. -/
structure Condition where
  type : String
  status : String
deriving DecidableEq, Repr

/-- Does the condition say that the pod is ready? -/
def Condition.isReady (c : Condition) : Bool := c.type == "Ready" && c.status == "True"

def condition : Decoder Condition :=
  Schema.record
    [passed "lastProbeTime" aMoment, passed "lastTransitionTime" aMoment, passed "message" aText,
     passed "reason" aText,
     kept "status" text fun c status => { c with status := status.getD "" },
     kept "type" text fun c type => { c with type := type.getD "" }]
    ⟨"", ""⟩

def containerState : Shape :=
  fields [("running", fields [("startedAt", aMoment)]),
    ("terminated", fields [("containerID", aText), ("exitCode", aNumber), ("finishedAt", aMoment),
      ("message", aText), ("reason", aText), ("signal", aNumber), ("startedAt", aMoment)]),
    ("waiting", fields [("message", aText), ("reason", aText)])]

def containerStatus : Shape :=
  fields [("allocatedResources", textMap),
    ("allocatedResourcesStatus", listOf (fields [("name", aText),
      ("resources", listOf (fields [("health", aText), ("resourceID", aText)]))])),
    ("containerID", aText), ("image", aText), ("imageID", aText), ("lastState", containerState),
    ("name", aText), ("ready", aTruth), ("resources", resources), ("restartCount", aNumber),
    ("started", aTruth), ("state", containerState),
    ("user", fields [("linux", fields [("gid", aLongNumber),
      ("supplementalGroups", listOf aLongNumber), ("uid", aLongNumber)])]),
    ("volumeMounts", listOf (fields [("mountPath", aText), ("name", aText), ("readOnly", aTruth),
      ("recursiveReadOnly", aText)]))]

/-- What is kept of the status of a pod. -/
structure Status where
  phase : Option String
  ready : Bool
deriving DecidableEq, Repr

def address : Shape := fields [("ip", aText)]

def status : Decoder Status :=
  Schema.record
    [kept "conditions" (Decoder.list condition) fun s conditions =>
       { s with ready := (conditions.getD []).any (·.isReady) },
     passed "containerStatuses" (listOf containerStatus),
     passed "ephemeralContainerStatuses" (listOf containerStatus), passed "hostIP" aText,
     passed "hostIPs" (listOf address),
     passed "initContainerStatuses" (listOf containerStatus), passed "message" aText,
     passed "nominatedNodeName" aText,
     kept "phase" text fun s phase => { s with phase },
     passed "podIP" aText, passed "podIPs" (listOf address), passed "qosClass" aText,
     passed "reason" aText, passed "resize" aText,
     passed "resourceClaimStatuses" (listOf (fields [("name", aText),
       ("resourceClaimName", aText)])),
     passed "startTime" aMoment]
    ⟨none, false⟩

def decoder : Decoder (Manifest Unit Status) :=
  Manifest.decoder "v1" ResourceKind.pod.label spec status

/-- The state of a pod. -/
def state (m : Manifest Unit Status) : PodState :=
  let data := m.metadata.getD .empty
  let status := m.status.getD ⟨none, false⟩
  ⟨data.anyName, data.uid.getD "", status.phase, status.ready, data.deletion⟩

end StorageLifecycle.ClusterPod
