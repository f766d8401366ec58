import StorageLifecycle.Cluster.Affinity

/-!
# Kinds of volumes

Where the data of a volume is. A pod names the secret of a kind by its name alone, a volume of the
cluster by a name and a namespace; such kinds take the shape of that reference.
-/

namespace StorageLifecycle.Volume

open Schema

/-- A reference inside the namespace. -/
def localReference : Shape := fields [("name", aText)]

/-- A reference to a secret of any namespace. -/
def secretReference : Shape := fields [("name", aText), ("namespace", aText)]

def objectReference : Shape :=
  fields [("apiVersion", aText), ("fieldPath", aText), ("kind", aText), ("name", aText),
    ("namespace", aText), ("resourceVersion", aText), ("uid", aText)]

/-! ## Disks -/

def elasticBlock : Shape :=
  fields [("fsType", aText), ("partition", aNumber), ("readOnly", aTruth), ("volumeID", aText)]

def azureDisk : Shape :=
  fields [("cachingMode", aText), ("diskName", aText), ("diskURI", aText), ("fsType", aText),
    ("kind", aText), ("readOnly", aTruth)]

def cinder (secret : Shape) : Shape :=
  fields [("fsType", aText), ("readOnly", aTruth), ("secretRef", secret), ("volumeID", aText)]

def fibreChannel : Shape :=
  fields [("fsType", aText), ("lun", aNumber), ("readOnly", aTruth), ("targetWWNs", texts),
    ("wwids", texts)]

def persistentDisk : Shape :=
  fields [("fsType", aText), ("partition", aNumber), ("pdName", aText), ("readOnly", aTruth)]

def iscsi (secret : Shape) : Shape :=
  fields [("chapAuthDiscovery", aTruth), ("chapAuthSession", aTruth), ("fsType", aText),
    ("initiatorName", aText), ("iqn", aText), ("iscsiInterface", aText), ("lun", aNumber),
    ("portals", texts), ("readOnly", aTruth), ("secretRef", secret), ("targetPortal", aText)]

def photonDisk : Shape := fields [("fsType", aText), ("pdID", aText)]

def portworx : Shape := fields [("fsType", aText), ("readOnly", aTruth), ("volumeID", aText)]

def rados (secret : Shape) : Shape :=
  fields [("fsType", aText), ("image", aText), ("keyring", aText), ("monitors", texts),
    ("pool", aText), ("readOnly", aTruth), ("secretRef", secret), ("user", aText)]

def scaleIO (secret : Shape) : Shape :=
  fields [("fsType", aText), ("gateway", aText), ("protectionDomain", aText),
    ("readOnly", aTruth), ("secretRef", secret), ("sslEnabled", aTruth), ("storageMode", aText),
    ("storagePool", aText), ("system", aText), ("volumeName", aText)]

def storageOS (secret : Shape) : Shape :=
  fields [("fsType", aText), ("readOnly", aTruth), ("secretRef", secret), ("volumeName", aText),
    ("volumeNamespace", aText)]

def virtualDisk : Shape :=
  fields [("fsType", aText), ("storagePolicyID", aText), ("storagePolicyName", aText),
    ("volumePath", aText)]

/-! ## File systems -/

def azureFile (more : List (String × Shape)) : Shape :=
  fields ([("readOnly", aTruth), ("secretName", aText), ("shareName", aText)] ++ more)

def ceph (secret : Shape) : Shape :=
  fields [("monitors", texts), ("path", aText), ("readOnly", aTruth), ("secretFile", aText),
    ("secretRef", secret), ("user", aText)]

def flocker : Shape := fields [("datasetName", aText), ("datasetUUID", aText)]

def gluster (more : List (String × Shape)) : Shape :=
  fields ([("endpoints", aText), ("path", aText), ("readOnly", aTruth)] ++ more)

def hostPath : Shape := fields [("path", aText), ("type", aText)]

def networkFiles : Shape := fields [("path", aText), ("readOnly", aTruth), ("server", aText)]

def quobyte : Shape :=
  fields [("group", aText), ("readOnly", aTruth), ("registry", aText), ("tenant", aText),
    ("user", aText), ("volume", aText)]

/-! ## Drivers -/

def flexible (secret : Shape) : Shape :=
  fields [("driver", aText), ("fsType", aText), ("options", textMap), ("readOnly", aTruth),
    ("secretRef", secret)]

/-- A volume of a storage driver, as a pod describes it. -/
def driver : Shape :=
  fields [("driver", aText), ("fsType", aText), ("nodePublishSecretRef", localReference),
    ("readOnly", aTruth), ("volumeAttributes", textMap)]

/-- A volume of a storage driver, as a volume of the cluster. -/
def persistentDriver : Shape :=
  fields [("controllerExpandSecretRef", secretReference),
    ("controllerPublishSecretRef", secretReference), ("driver", aText), ("fsType", aText),
    ("nodeExpandSecretRef", secretReference), ("nodePublishSecretRef", secretReference),
    ("nodeStageSecretRef", secretReference), ("readOnly", aTruth),
    ("volumeAttributes", textMap), ("volumeHandle", aText)]

/-! ## Volumes of the cluster -/

/-- A volume of the cluster that is described in place. -/
def persistent : Shape :=
  fields [("accessModes", texts), ("awsElasticBlockStore", elasticBlock),
    ("azureDisk", azureDisk), ("azureFile", azureFile [("secretNamespace", aText)]),
    ("capacity", textMap), ("cephfs", ceph secretReference),
    ("cinder", cinder secretReference), ("claimRef", objectReference),
    ("csi", persistentDriver), ("fc", fibreChannel), ("flexVolume", flexible secretReference),
    ("flocker", flocker), ("gcePersistentDisk", persistentDisk),
    ("glusterfs", gluster [("endpointsNamespace", aText)]), ("hostPath", hostPath),
    ("iscsi", iscsi secretReference), ("local", fields [("fsType", aText), ("path", aText)]),
    ("mountOptions", texts), ("nfs", networkFiles),
    ("nodeAffinity", fields [("required", Affinity.nodeSelector)]),
    ("persistentVolumeReclaimPolicy", aText), ("photonPersistentDisk", photonDisk),
    ("portworxVolume", portworx), ("quobyte", quobyte), ("rbd", rados secretReference),
    ("scaleIO", scaleIO secretReference), ("storageClassName", aText),
    ("storageos", storageOS objectReference), ("volumeAttributesClassName", aText),
    ("volumeMode", aText), ("vsphereVolume", virtualDisk)]

end StorageLifecycle.Volume
