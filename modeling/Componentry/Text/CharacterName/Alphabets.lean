/-!
# Names of characters: Alphabets

The names of letters, digits and marks of the scripts in everyday use
(Unicode 14, code points 0 to 1FFF).
-/

namespace Componentry.Text.CharacterName

def alphabetNames : String :=
  "@20a:Za)0!Sab:Wa%I!Eab>4ab^Ya>0a=Ea!H)4ab!Ga*Ma!1!Ea&Na_Ra(K%8a*Ja$F$Ob!Jb!Ib!Lb!Nb!Qb!Yb!2b!Zb!3
 a)Na:Ya%QmC2(Sab%Sa)J!Sa]OATa%1!D!BAdBdCdDdEdFdGdHdIdJdKdLdMdNdOdPdQdRdSdTdUdVdWdXdYdZa!H$W%Ya*Y*Ja
 !Gm2^%W(Xa$M%2a%6(XmCsCmD6mD7mD7*P%Ya!7%2a!Gm2^%B@A0aNO-BREAK:Za%Tms^CENTm`:POUNDab]RabYENa]K$Ya*2m
 r6OaCOPYRIGHm8qFEMININE ORDINAL=Ua+3!M(D:W!Sa&D!Ea;S;GaREGISTEREm3s&2aDEGREEmFvLUS-MINUSa;Tn6ba%R(X
 aMICROm7;ILCROWa!8!Oa+Xm8@JaMASCULmJF*ZmJAVULGAR+A!J(5d$Tc!L:Vmb6nAsn@p!A%6f%Rf%Wf%Bf&Of$2!KdAEdC!A
 +XdEm71&OdIm3LETHdN!A%BdOm?ga<ngqmEqO!A$CdUm=8Y!A%Rd[7bnJ8[2SdmN>mNCmNCmNCmNC=MmN6CmN<mNCm1w&Obmm[&
 2be!Cm379m3:<5m37Cm=>m3;Wm3:!O!Kbfm3X+Lm6Ucm3BDm8vDmPam37EmK;EmK;EmB7EmN^EmDym37GmN^Gm?dGm?fGn2ym6Y
 Hm<bHmREn7VBm38mUGImEhImQpImHcnQC.OIb!D)FIJbcm6hJmHzKmNydKRAm3tLn3xLm6um3;Lm3:oJ4m`OLmYONm?dNm?dNm?
 _ePRECEDED BY=En14NGmUCOmf0m399m3:!M%RmKE)FOEm;xRmJfRmJfRmZESm9?SmnGSm<ASm<ATm6=Tm6>mizUnHEUm^>m3;9
 m3:$2n^rUmacm3XnO?WmU>o;qYm5SoUxdZm`3Znr^ZmVHd$4SdBmVDm5?m2<BfTOPBAm=D&P!Ybdm2p$9Op7o$m^eAFRICAN Dd
 Dm=Yd$V*Qm7l%AEd>Kd$9EdFm80mWqGd*SnzSHVm97(TdIp<=Km8ednhVYdLAMBDAmTn$VMpL]!H$Bm=_ngP$4!G,LnZn8%Bf*A
 n_wIn[SPmY]BYRmbJImbK,FbmVe,F,8mCsnJX>C$BbnMMmB=m2r)Kpb:mFl(7dVmDydcn=PZpIDZHe%AmH0e!A&4b!B!mein5?Q
 mMqB%T*I%8m5_cWYNNcDENTAL CLICKcbLATERALcbALVEOLARcb)KpawnM[dcD!AmYFZmfom4iofiJdLm5@Jm`lLJobaJdNm56
 Nm50ApwcIm2ROm2RUo81O!F&2bgm42%Rm44+Lm7x6bgna=p1<Am@VmFiAo5jhn96AE!n7]Gn3GGmXJKp;_<5m3<mF6n?]oH^cJm
 ytdmxpmxbGoWlHWAIRdnAsrHM6oIDoqkmiPmXObrjW!FmL^AoyI6oi9s<DT&9qscm75Em75Im75Im75Om75Om75Rm75Rm75Um75
 Um6ypqZ&N!Vm3SdoJvm5tYOGHo`xHpt=omYCrgQ+YmR>Um:bZpJ:rf6q=GOncsmc@Bn3SOm=cm3]m;2nAtpxspLP+YdcNdcTd.O
 JdDB*GdbQPnNUCdcnq2pVJT!A(oqjCmlSSWASH&4ddncJoropHYBsqZ$Yd$VVdEm32o3aJmC7!CQmhk&4m3s!Bn?Hm9qYq7MAd(
 Idb$VqLzBdqDjmZMDpHef$Bdq=@em6hEdc%Agm2n(Y%Am3c.OJmPbGm4j*1GbpT]C!Dm^O*SdRAMS*Ad$VHdHpe>HENGqFh(Tm9
 zIpF:q<l<Of)K$BdLEZHd$VMfnRX,LdMm>5bqJnfp[Fm=@Nm=?=GOm3UOEm3d(Y(Gd)Rd$VRm>7g$BdRm2Nf&4f[Ddd%Am;UReb
 %Tn:ZmF5,Fm`_!F$BdSQUATqPqd,Fmov$VTnF@mTHn=KqJan?FeWeYmj?Zm8sf+YdqKso2EnMLcPHARYNGEAL<NrItTIVEcqKTc
 STRETCHED CcBILABIqL^mCsBmc?$9EmGnn:YeHm5?J!A?2d$VmpooMHnZzmK2qaDqk]pUuo0HDn6@m2LmbWTSm4HTESHdTCm4K
 FENGm4iLSdbLZb!BmQ;PERCUSSmYVbBIqs=mI8$VH!A[Dh!F&4a(1mNuHngsJdRnq]fm2n!D%TRdWdYcPRIMEcb!Mc$V&Nc=Ec%
 A&Nc!G$T$2cc!Hcmo5c%Ac!H*6cb!GcbUPcb!5ct:wL+LmFV7%2c&2c%R(Xcb%6c$Mm48d&2d%6(Xdb%Rc<L)Ncc$TcCENTREDm
 EqdmEoUP*LmB=!1!Ecb+Sa&9aozNab$2a<5a!C%Ba!MmDXmHARHOTIC$Bc(Z(Xc!C*SdLdSdXd%AmVE_J&P$Ycc$7ccMIDcc$Mc
 c_KcYIN DEPARTING&P!Scd:7cVOICINGcUNASPIRATEDc!M=EmZm5*6dbUPdb!Hdb!Gd$2c!8m^pc!Mem_e$M%Bc)5)Nc=H$7&
 Pcc)Acb=H$Mm2=SHELFcb$9m@qH!Pa&Vm=_bb%Rbb%Wb%Bb&2b^Wb&9bphO&Ob$B!Kbb$2bmeZb+LbmyP!Kbd!Mcm=`(RbqNfnE
 :m9g&Nbc%Abm2m!Gbm7Z!VbcmE_!H*Lbc!Gb!H(D!Kb*Ab!Hn7w!VbbUPm6E5bbn7wbc+SbbPALATALIZED$Bbc)Kbb!ObmPqmO
 kmFu+Xb<5mOkm>f?m]HT!MARCHbmU>bnZXbm^>c%Tbmaqmb6$M%2bc!Mb%B<Fbb&E$Cbc$4m2<*Jm2=!GmPe%TmBL$WbbSEAGUL
 LbX!KmHPBb!M^Wb%6nF@maQ+P)HcKORONISc:JTONOSc.Xb?m:m(S!EmAF!nt`bmi1b&D%n29HOMOTHETICbb:8%MTOb!H!G!Pm
 ts$KbGRAPHEME[Nb!G*6m;2mtebFERMATAbn2yn286n28db!FUP*6cm7ZmU_On;O*MmKu$2b>Zm4yM&9!Vc&9c&2d!Vc%BcnHmc
 !WmJ=t=MmeEeIeOeUeCeDeHeMeReTeVeXa+PrgrETAr`;+USAMPIr3`<4nH<$Nm5OPAMPHYLIAN DIGAMMAm7k@37Ab.Xb!C%A^
 I*B!9cd)EpQl)J!Ss4ST@384bmyAbb:Jr^L(I!AbANO TELEIAm4I)O!Am8Qdc*Hdc(m<HCdc+m1gEdc(7dc(GbpuoT!A:J!Fm@
 Sd+Kd*Sd*Qd)Od:Cd*Hd)Ud(Td+Qd.QdMUdNUdXId+TdPId)C@3A3d*Bd+8qU>)Rd)Wd.Cd(GdmCDmGZmFVImOp)OmPedb(7mKT
 dmJemJlmJld!T*BmJvmK1d+TmIzmfS!DKAI!9bb+Kbb)UbmLXrd?%R!FddoT0)RbbPIbbKAIbnIRKOPPAsM8BSTIGMnOjBnGWm3
 7m8Pm2anTUm2]a.Jn12SHEIn[CFm2dKm5VHORm2sGANGInggSHIMm38Dm;ea+P+Qm]H)CbbnbBbn^[b!D)Um4y^I)Obrtom>FOm
 =rnkKmT8Nm49)Cruv9ngqnr4nqaa.Lm<yIt>=gdIOdDJEdGJEdUKRAINo6<IEdDZEd~5IdYIdJEdLJEdNJEdTSHEdKJEdIm=?&E
 UdDZHEdAdBEdVEd:MdDEdIEd:DdZEdIdb&EdKAdELdEMdEt?sqEdERdESdTEdUdEFdHAdTSEd+Md$8dSHCHAd<W!Ed=Dd;S!EdE
 dYUdYrpymFTmFdmFdmFdmFdmFddmmxmmxmmxmmxo_oGnNvYATm2b<AEt8Cw(PYUSm33cm5pt9owBIGm5Xnl2Sni2.Cns_IpV`IZ
 HITSm3_t:3<(Xt:sIKmPV7(GmPgG!ATITLOmI[OmYZoHP[8!Ea&V.Lm9Wcr9WATIONc$ZPNEUqHacb$1cPOKRYTIEc%7m<8cb_X
 nuG&EI!A&4t9y1EMISOFT!mq6ERmOJCKmO?:M!AUPTURNm4A$Cm3K!8$BmBr:D!A.Nt9<9ZEm2cKn2?mpk7$Cm<9m3wm6kBASHK
 IR KAmR2NmCDt>cFEN:Mm69PEmM9_AHm<`SmOuTEmFY*CUbdm2cm`Jm>jHAmHYTE TSmqw+Mm6Vm3Gm^2pJvHnZN_A+mUT_Am=0
 m9Gr:yLOCHKAmun&9mpbt:voELnGFm3HNm6_Nm6^KHAKASSIANmJtEMm7odmJ2tAHK&OmftA ImfTIEm9?>o::>Km;hcm[unUum
 gzDZmA7t@p9m>NmLLt:A`dm2cm8Qfm8TmCtt?hnm@vt?eK+Mm6n:nJB=Dm6`t:KMoq9n[Po0qHAoFv=XDmbFm2rJm3:Zm3;Dm3L
 Lm3;Nm3;Sm3;Tm39%Amz^ELnYlLns?Rm2dYAEm2bQm54Wm4oALEUTo_ULoXOdnnmmyvPEoX>oBHnwY!HoexDZqFDrddCm2tELm?
 o@531a_DmNEYBdBENdGIMdDAdECHdZAdEHdETdTOqyaINIdLIWNdXEHdCAdKENdHOdJAdGHADdCHEHdMENqhZNOWqy0VOd%EdPE
 HdJm6DRAdSEHdVEWdTm?Z)TdCOdYm2LPIWRdKEHdOHd)1@559b(1!Bt8Q8=EbEMPHASIS!Sbb)0b&Nt7qvb+It;70mYVmZOmZ[m
 Z[mZ[mZ[mZ[mZ[mZ[c)FECH m5_c!BYIo41(K%8b;G@58Da|F_DETERNITY!Ead_Uab_DDRAM@591aHEBREW(XETNAHTAcSEGOL
 cSHALSHELETcZAQEF QATANdGADOLcTIPEHAcREVIAcZARQAcPASm=>YETIVcTEVIRcGERESHdMUQDAMm32SHAYIMcQARNEY PA
 RAcTELISHA GEDOLm?:ZERcAmMo HAFUKHcMUNAHcMAHAPAm3BERKHmyPFULAcDARGAcQADMm@FQETANmMoRAH BEN YOMOcOLE
 cILUYcDEHIcZINORb!SMASORA$Rb:sOcVAcHATAF mi1dPATAHdQAMATScHIRIQcTSEREmohm6fcm6iOLAMdHASER(EVAVcQUBU
 TSc]SOR MAPIQcMETEGb(QMAQAFb:TRAFEb(QPASEQb:T(V!OcbSINb(QSOF PASUQb!S$0m5>$m4y&HmleAb:TmIyn=m@5D0b!
 B$EcBETc,IcDAnE:HEcmMo.YcHETcTETcYODc!T(Uc(UcLAMEm32+Cc+Cc!T&Hc&Hc,Oc:9c!TPEcPEc!TTSADIcm1HQOFc.7c(
 VcTAV@5EFbYOD&Xb)FYIDDISH!MVAVdVAV YODdb!Mb(QnUmnTJ@600a,B%I!Eb!ESANAHbFOOTNOTE^Lm49FHAcSAMVATb%I!S
 !Ka;YCUBE ROOTbbFOURTHa,BRAYa;YPER MILLEsng$X(6abAFGHANIa,B&NbDATE+FbPOETIC VERSEmJ]sr>RmFTLLm0aHOU
 ]GWASm3SMc]Gm2QRAHMATUm7k]GcRADI m:` ANHUcTAKHALLUSb!C$7)Ld)F$rTu7!A$Gd.Ic;Ec;4c;Ib:Yb!BpBAAOF TEXT
 bb&0!O(Qbb)Jbs6]SHMIRI$Gc(Fcm?:=0!Keb(Fcd&5m3d(F!Vc$Gm1xKc$Ec*Nc*4MARBUTAc*4c:1c$Uc$Lc%Vc.McTHALc)T
 c.Ic)Dc+Gc)6c*8c)LcZAHc(Lc+Zc[P!A!I$I!Ke!L$I!Vc[AmEN%TVfm5@fc!LbTATWEELb!BpHTIndN&7c!4c&3c(4cmRn%Jc
 $Gb[Bb]Ub]8b;Eb;4b;Ib[1b?PbMADDAH!Kbm^N!Vb?O$Eb%T;4b!S&3GHUNNAbZWARAKAYb$D!E!CV!Kdd%Td!O!Vb%AmA6EmU
 qb=CmkLa;Y$F$Oc!Jc!Ic!Lc!Nc!Qc!Yc!2c!Zc!3a,B^Y!EbDECIMAL+Fbb[8b!Q*X*Kb!B.O*Nd)Ic;T$Ec$EWASLAd!AmDIK
 gn5J7(Fe$Ee&5cUn7Xm49$GcTTEHm17EHcBEEHc*4!A$2mwgK$JcPm6um6gm1G$Lm>6ebn0^7cNYEHcDYm5rm<:cTqZ]m1Hm6TD
 ALc.MmCCmiag!F!C)LcDAnLuDm1YUm7mmJPe!Nm@ARREHc)T!A!CVem>7ebm2mm2<!F!OmNXcJm99m<[b)D!Am84nZ;h!FmSE)6
 n`zVmdEce)Lce(Lc.On[N1m<yMOVED!Vf!VcVEHm4YnjfPm`;)I!AmKum4yc[PctBfgpR1mdgKcNGm3Bm<]GAFdm64cNGOEHm3B
 mMccGUm3emwz&7mfamEenJ8b&3mIgdnmwcRNOONc&3nEQc(4DOACHoayEEn;0mTkcb(4oqjGOALenITo^m m4ic&5mR^^DOEcOE
 cUcYUcb^Dm5>oXKcVEoWSonW&4e!CVm6TmE@Em4imdUdBARREEmFhrpX!BAEpFZF)6pEuo]0ef)Id!4$P&Wd&7$Ed$Udm>ud)Dp
 GaAYAHbSTART OF RUB EL HIZBm@b<G$OdbUPtKt6 RECTANGULARd.O,2OF%VmD8H&Wc$M)Dc$7=0owMGcb$7d&3bPLACEmCR
 SAJDAHb>5%3$M%8db$7b<G$7%8!AFqA6D%3mHqM!4o^6MpEtcd)Ta=Nonyd!Jd!Id!Ld!Nd!Qd!Yd!2d!Zdonx!B+Gnvmcd*8cd
 +Zq`ZINDHI>0dPOSTPOSITION MENb!B(4mEOaSYRIACmjw^Xb~Zmy1cSUBLINEARb~Z)Nbbm3Xb$3b)NSKEWED!Hd!Gm7Jm3Wm
 8wm4MGbCONTRACmJmbHARKLEAN OBELUSryLm2?ASTERISCUS@70Fb+I!SnKNLAPHcb;Tc,DcGAMALdGARSHUNroAATHc.Om1
 y RISHrrR&5qKR,3c<Jm9mYUDHdHEc,KrsXADHcMIMrqmSEMKm?Jb!TcrrSb%Ac.ScQmJ<mAwrq].DcPERSIAN BHETHdGHmNED
 HmJ^bPTHAHA!Kc!Vc)EbZm=>m3HRBASm34b)EZmKR$3dneWbHm6Im2N-ESASA)EbESm5SRWAHAbtMip!ObQUSHs;:AbRUKKrX]b
 !I!7qzXVboi:d!Vb[W%2m2>MUSICboN^KH@74Db!BSOGDm^oZHAINdKHAPHdFEnf[*NoYqHORIZONTALLY!pnWLrFU)S$K!Vj!F
 omPpsDpnE%TqyaVonVqH2Im<2r`Vm4k?T!VqFFm;Vq5p$Cc)Dq7Oc(m>febm>7JmG]?TpvBpctm6IKrkzpa[mHd!4m4kfpdym<:
 emJLfVpmM$YmJ]mPSsE8qQgm3wm[TCmou)L!Vimfqci)Dci)m6_plwsPiolm!Ihb!LcbpaDm4Nib!Li!N!pc0m4o!Km9X$Gpc2m
 :VmEom3fm<Y)Dm3IKep;V(Un5>aTHAANA!BHAAcSHAVIYANIcqLiUcRAAcBAAcLm5CKAAFUcALIFUcVAAVUcMEEMUcFm5?DHAAL
 UstZAcLAAMUcGm5?GNm=sSEENUcDm3FZm20Tm20YAAcPm2qJm20CmKxTTAAcHmDyKm16TmHcZmXrmCtSAADHmENm1WTOcZOcAIN
 UcGHm1WQmO[WmXabABq0aIbAABAm2>IBIm1hEEBEEm2=UBUm1hOOBOOm66Bm5aEYBEYm66Bm5aOABOm?]?Pb!BNAA@7C0aNKOt7
 3]t73fp[6cEEcIcr@<OOcOcDAGBASIrXmNcBmlscTAcJAc%EcDAcRAc*0cSAcGBAcFAcKn60cNA WOLOSOcMAc%FcNAcHAcWAcY
 m3Bm5rJONA JAd%EdRAb&V&E$7&Pdb$Mdb.8cb$4DESCENDINGqrVm5d~E!Sc!MoHibm;2=Ebc$Mb!9OO DENNENmNeKURUNENt
 ;yD0!SbLAJANYALAN@7FDbDANTAm3CbDOROME!EbbTAMANaSAMARITANqKSFcBITqJ^NqHccIYntOZENcITcTITcYUTnuUcLABA
 TqCWINGAm:LNcFIcTnX]IYcQUFqBo;QcTAAFb!SINcIN-mGKOCCLUSIONc]St<]yEPENtE?7 YUTbc!St8TX$4EdEdOVERLON
 G AAdb$4dAAm4>m3vbm?;&mouD!Ed$4UdUm49Ibm?ndIdOdn^ZSNEQUDAA@830bb(QcAFSAAQcANGEDcBAUcATMAAUcSHIYYAAL
 AArAT(QMELODIC QITSAcZIQAAcm2`AEFcTURUcARKAAoGcOF MASHFmnNANNAAU@840aMANDAICp04LQAcABcAGcADcAHcUSHE
 nqmAZn60ATTcAKSAcAKcALcAMcANcASn3oAPcASZcmW:Rc(McATcDm=BKADc(LbAFtI?8ON!SbbVOCtAjVbb]1@85Eb(Q@860sG
 v!BMALn_1M$5do0yFd%Zd&GdNNNAd&IdRAd)BdLLLAd&T@870qv`pyu?V;Efb&U!Ge!G!8$Cec!He?V;Ifb(N!Gf<7qNVGm1wfc
 !Hm3ut8>gc?Vm<y;E!Fedm>7d?Vm<X;Ifm5s!H$2m6t!G(Ffb!Hbt:R7!AnZySTRUCKe&5dqs>b!BTHIN$GbBASEskumL8bc)5b
 !BqoT%TrFur>ub)qbgOr0_cb[Pqncb!7&4@890tSrK!S!KbcPIASTRE@898t7yu.GAL-JUZc$M.GISHMAAMeIMng0eTApuLLb=0
 WAAJIBb;T$EMOKHASSASbDOUBLED=0bb$T=0$AbrzDrl0(Fr61qgGt9[orZIs1ct9ThrOX!M$YrWgt9FCbr>0s3_(Fib!OrVb,8
 t8qsWImq0cROHINGYt8yPM$Et:COVce)6t9X=%T$Cc*Ct7M2m32V!Ks3Zm8ebr?hOmO?!FNOmLZm]J!4cePEHcb*mRLC*4cbruU
 C&3cdmT@ctP`m)1d)Id&3cPEHmkMcd*4cdt;9Zdt:s5d[Pc+ZmdWem<]Ice$Ugmlds33GRpPuCs0Hcc$7drsmmK6d.GSAHdZAHb
 %Hn`Vt7Ilqmib%H$Rccm4X.PnQsM&5cnRzR-RUBd)6d(LmVF!A;Icd$Mm6gTH-Tt7yEAeAS-t9LTeAN-NISFeSAKTAeQIFeWAQF
 Adt=m9dt=m6bDISPUTEDt9qQ$V;4!Vb*Pt=F3c[Bc]Uc]8b&P!Jt:WSn_bb,8cm3dVm3ib$9m:?o2w&5t<Vu$2dqov;nFdtI?wo
 =F!Gm2NVm2NMtIK?fm8@be!Gbct<oT>Nt<oxaDEVANAGARI!E%T(Rc(Rc%9c(Co]aEAcAcAAcIcIIcUcUUc%PRdLc,WEcb&EcEc
 AIc,WOm2nOcAUr]T%GcGAc&Bc$5cCrf:rgP&6r_@%Zc&Mc%0c&Rc&GrmD%Lrl_%5re4p[VrrB%Urt>&IrjcYrrvrp6)Bcpa4cVA
 c$8c&Trw@HAqc^OEdOOEb!E)3c,Cm49AAdIdIIdUdUUd%PReRRd,WEdb&r1cAId,WOm2nOdAUb!E&Ym;t~PEdAWbOMbp:@SS!EU
 DATTAd_CbtK^5m8r,WrAcUEdUUEb!BQAcKHHAcGm16ZAcDDDHAcRHsN^YsH8PRRdLLm<z%PLeLLb,Xbb!Mbsk=skC+t?`p$7SPA
 CING!Ob!B,WAcOEcOOEcAWcUEcUUEcMARWARI%0c*Ec!6YAcGGAcJJAtM:ymP0AcBBAaBENGALI ANJIb!EnQw@98q5NnR7L@98
 FnQ3@993nP@nPKnPKnPK@9AnOwnP:@9B2cLm1V6nNhm3RCnMCnMI@9C7nLE@9CBnKU!BKHrpw TA@9D7bAU;K!S@9Do;Z*0n@]@
 9DFn@mnA1@9E6n@Gt80ORA!A!8(Aeb$Nb?J!Sc!Eb]RNUMERATORt<M6JLESS THAN&8DENOMINm7kcm2d<HbISSHARbGmXat;q
 uVEDIC%9nWy^2!S@A01aGURMUKHI!EADAK BINDIcm1GnJXA0nJg@A0FcEnISA13cOnIgnIrnIrnIrA2nIcnIrA32ojq@A35oja
 @A38nKAA3nK@@A3EnK[@A47dEnJ9A4BdOnJM@A51cUDAAT@A59nMJo[c*0@A5EcFA@A6nEEnEITIPPIbADDAKbIRIbURAbEK ON
 KARb!EYAKASHn5[@A8n4TJARATIoLhAoLboLpndN,Wm<8Fbb!BcAIm3dO@A93m3cn6Tn6`n6`n6`oP:n6`Bn6UB5pq?@AoQ^poh
 @AoRGdmVUoSB@AD0bOM@AE0b!BoL`AoL`p]lEbb?J@AFnGF*p`N?Pc[1ctAphcTHREE-DOT)3!KccrnJTWO-CIRCLE@B01aORIY
 An;5Bo=9pWnB0pWbB1pWen7fn7fn7fBo=xn7fBo>1B3n7dB3n7bpY9B4pXxB4n5sB55c^WbAIpVybcAU@B5pWvB5pWqn;^BoBpn
 ;^pEV!BWAbt[cIc!J[4d*9c!L|K@B82a?R!En5=o@G@B8s2TpBcB92cOpC;@B99n45m2<CcJm1VEn4V@BA3n3P@BA8s0>m3BErz
 ArzA@BBp=QBC6dEp=fBCAdOp>@Bo5HBqWPBo2Pmr5%I$Xc!J%7d(6bDAYo5FMONTHbbYt@NTDEBITbbCREDm1gAS!Ko<abb%I@C
 00aTELUGU!E&V(R!Kco3_c&V%9!Kmz7o4OC0n0RC1n0To5fo5fo5f@Co5bn4Cn4CCo5co5fC4n7LC4n7QC55bo5hm]958b!B(Wc
 .0cRRRA@C5DcNAKAARA POLLU@C60o9n@Co9jnBx@C77pB0Mb+Am9F(EODD POWERS OF!Ndf!Jdf!Idf!Ldd!J(EEVENm3wb!E
 TUUMUaKANNADA!Et770(RnE0?MnD6nDCoDWC9nD>nDCnDCnDCqQ?nDC@CqQ4CqQ3nD3oKACoKFCDnCwDDb!Bn@frX]CEnABnAPo
 T=nAQF1b!E[Mc]B@D00at<`_oJ4%9oJ;sgRcn6OL@DoJKDoJJn6On6On6Ot9MjoJdoJdcTTTAb!E!7$Y&Ycbr1RULARn9xn:7Do
 MnDoMqtGsaOREPHb!EPARA@D54b!BCHILLU MdYdLLLpZdqG;~8dFORTIETHc!LEIGHm2^Sc!JTWENm2ndTENm6fm3sm6jFIFTH
 tR>LIInK=@Do]EnK=pp=qg9qgCtHv_!Sm[iNNdNdmHqdLLdK@D81aSINHALrtaANUSVARAYAcVISARGAYA@DqriYofwcAm1kEm1
 km1zIm1Ym1jUm1Ym1jIRm21m4=Lm21m4<m@CmB0Am@SOm1Ym1jAm9y@D9Ac;XKmOMb<Cc;XGm39KANTAJA NAASIKYm_4SANYAK
 A m8T;XCm=hJm39TAALUm=hdm=_OOGm4IKmBHJmBATTmBUDDm3IMUURDHmPbm4jm=um8U;Xm=ym=gDm^tmiCB3m>9m=uPm=xBmK
 ZnFeMBA m5RYm1jRmBQDmFjLm4LC0cVm2_mn3SmCFm_9cbm<;cHm66mdvm@7cFmAlolkAL-LAKUm3SFokVELA-PILLAdKETTI A
 EDm3gbDIGm52ISm4hPAm9I@DD6m5`m2<8dGAETTmBrOMBUVm<Jm35 DEKm5S HAA mMDfm8bf|5d|5@DE6bLITHtG>_tG>h@DF2
 m]Ym<i mKJe|5b(QKUNDDALIYA@E01aTHAI=KKO KAIcKHO KHAIdKHUATdKHWm2^ONdRAKHANGcNGO NGUcCHO CHANdCHINGd
 Cm6ESO SOm5rOEcYO YINGcDm9GDAcTO PATAKc.ETm<yNANGt71JOdPHUTHAOcNO NENm;2DEKm:]TAOm:=UNGdTHAm;sTHONG
 m97UcBO BAIMAIcPO PLAcPHO Pm9wcFO Fm3VANm3DNm3SSAMPmGZMO MAmT9AKcRO RUAcRUcLO LmWkLUcWO WAENm`;ALAd
 RUSIdSUAcHO HIPm9FCHULAcO:Em4HNOKHUKcPp=DOIcSrQcAc.3HAN-AKATm3vAdAMq]lEdUEEq_EcPHINTHU@E3Fb]R!9BAHT
 b=Km;3EdAt>4aI MAIMUANem1gALAIcLAKn?WYm^omJ]MOKm1wTAIKHUc.3EKd.EdTRInAsTTAWAcn9BTHnK_TcNIKHAHITcYAM
 AKKmr7NGMANqWDqWI=KANGmJmmFTKHOMUT@E81aLAO!BKOngASUNG@E84dTAM@E86c>D&BneTcCOc>D%En1cm66Cm646cNYm5Nt
 BesMd%0d&Rd&neTcTnWgmAgm@qm805cNOcBOcPOnLgnSQm6TbPHOcFm4K>Drs8OcYOnMo@EA5dLOOT@EA7cWOp[wSKRIT$8drue
 m<KbHmNT)BcOcHmC3b]Yp9Ld.3KANdnIYYdYYnI2rq]>D&m8c.3KONbSEMIVOWEL!ELOdNYO@EC0m6vEdEInLDYs5FEC6bKO LA
 @EC8b&PnF5IdCAnEJb_F!SbNIGGnCoA@ED0nAKnAQ@EDCbnwao?2t<wuMU GmLkF00aTIBETAN,QOMb!SGTER YIG MGO TRUNC
 ATED Af-UM RNAM BCAD MAgbm9F<Mcb$Pm:PMDUNcb]Nm3VSGABcb<m6xodKR SHADccm4;<McSBRULm4kBSKUmKGccBKA- SH
 OGcINTERSYLLABIC<McDELIMImKdBSTARcm=`bNYIScb<Mccm2>RIN CHEN SPUNGm3cGYA GRAMc<P-DZUD>JME$4CANcm]ZbL
 OGOTYPE!EpVX>JdbLHAGbbASTROLOGICAL!ESGRA GCAN -CHARd-KHYUD PAdSDONG TSHUGSb!ERDEL DKAR GCIGeGmPqeGS
 UMdNAGm4Odm7lm9xNAGnK7nK=c$TqT[qThd$Ob!SBSDUS>JcNGAS BZUNG.4ZLAmfeBZHI MIG mgem8F SGOR>Jc+Mn9c(W-PH
 RUcGUG>JGYONeGYASc:EpGp m3xt>PyRmfNEScbMARnl>Act8cl@F49t8cst8d1t8bt(Wc.Fc.0cDZtGq5*EcZAc-t8hMLt8eQA
 cKSSAcFIXED-FORM RAcKKt?;FF71o]0t8f^eLeLLt8f_t8e8nFaJES SU$5ROcoASm=`%AIeIIb!En0<sl:shccSNA LDANb!S
 HALsNLcPALUTsGBLCI>Jcb:7cLCE(Wn76bMCHUcGRUn:8 RGrKoSdbMEDc%Tm64m5>bb[5!Em;Cdm:^dc%Tcn28d%GdGAd&Bd$5
 dCtH^_n2899dpu8pr:d%LdDAd%5dNAdPAd%UdBtFeqMAd(Wd.Fd.0dn28dWAd*EdZAd-AdYAdRAdLAdplhdSAdHAdAdn28dn2?W
 AeYAeRA@FBEbKU RU%Genk@bCANTsL0tGC6E!6BEATdb$SdCneeTE-UdSBUBoS[Lb!9DRIL BUcRDO RJEcPADMA GDANm4< oo
 cpBbPAcNOR BUeoSk oc4ILeboYoebmND@FCEoc8o^Voe5ob`oMWpH8 GIpKwmEONcdMNYAMpPTpBb<Mc$PBRDA RNnD4 pgqs@
 yb]Nm6mpk8a|FSVASTI!Eac_Um3I!A$Iae_Uq<<!SLEADm=oMCHAN>JccTRAIr2j1000aMYANMARoY6t;AjNNYAoYqoZ3oZ3oTG
 WAoS^)BcAcb;Qt;bPEcbMONt@3BoEhTALLs^goU>t@i1MON IIeOdE!Kbt?Bq!O!Vt>EVYcASATb)8!E%KncjeWAeHAb!B[ESAp
 i_sJt!E(P*2c*2b!9LOtcA0COMPLETEDcAFOREMENnnkEDcGENIm7Jb!Bp9L%PRt:sxmZMp11b!BMON$5d&6dBBAdBBEmT9MON%
 KNAfMAfLmT8SGAW<Z$8m=pm2oEUb&P!Sm2oHATHIfKE PHr]TWESTERN PWO<Z%LfPWAm<Ym5GEUgUEbm4d^5/4b!BEAm4O&GfY
 WAfGHm?=GEBA<ZIdKAYAH OEeUeEmdR;Qp9?CAoqy%Fp1kNp0UFAdBp5dHAmar;Q%KmAI;QAAeEf!Ke!TYbm3R[9/1dTONE-5/1
 dCOUNCILm4XetWf2TIC&Pb!BRUMAI PALAqg4FpgXm4Bm>Vb;Qt9[3r6`nNA^C^5mHs3qDkITON AeAIb!9;Q!Jd)0a]2tXYwNd
 m0qGANdDONdENdVINdZENdTANdINdKANdLASd*UdNARdONdPARdZrl_RAEdSAm96RdUNdPm4HKm16GHANdQARd(Vt9bspUcdJIL
 dCm0qm7JXm3cm8@HAEdHEdHIEdWEdm5oHOE@10C7dYNm1gDdAEm1wD0bmU_cm0qGANcDONcENcVINtLM>TANcINcKANcLASc*Uc
 NARcONcPARcmU_cRAEcSAm96RcUNcmU_cmU_cmU_cQARc(VcmU_cqk]JILcCm0qm7JXm3cm8@HAEcHEcHIEcWEcm5oHOEcFIcYN
 cELIFIc$VmQw(Lb^X+FtdR0]2NARn5:BAENc<W!EcbteE`a<VCHOSEONG=Wc|Mc=6c>Sc|Pc>Ic=2c>Fc|Nc>Oc|Oc<Yc<Qc|Lc
 =Lc=Vc>Qc>Ec=ScNIEUN-KIYEOKcSSANGm3tc~Fm5rPIEUPcTIKEUTm8eRIEUL-m6vm;Dm3dc|AcKAPYEOUNm3e~Dc|8cm>Em<l
 m2pmEbMc_3m3vSIOSm7o~Lm4`mKum3fmG[m4im7BCIEUCc~mCwCHm3RHm35Tm32Tm36Pm32PHc~mTomAxmEa~WcmAVmR@Xm34m[
 tm2NMIEUMcmPVm2NmaXm3tmT>m3DmA6GcmUDm2MmTMmg6m2mKm2omVxm2omVhm2pm2]HnkXTUEUMm48m2rmI<CnXLmDIMm3_mvE
 ANm1hmQhmXtm2pnPNm2omeZm2_mcNm2`m=Em@CnVsm49m5PmdDm2_mdVm34matm35mb;YESm=am<ImtDmaUm4Imd]m49maHm3mm
 8ZmKvn4Hm3VmzQm4lm>jm4?mSvmid|9mdum=a~4cmvqmu[oO4mpL_Yc_ZoP;nfM=ObbJUNGokUcAcAErz2YAEcEOcEcYEOcYEcO
 s1_WAEct=J8cUcWEOp;FWIcYUcEUcYIcIcA-OcA-UcYm1wYA-YOcEO-m17Um16m8am3dYm3tO-EOm16cO-mEN-m2mUcYO-YAm1H
 mGJ-mL9m;SO-IcU-Am0qEcU-mAXUm<yUm<8m5oYm4ym1Gm16m<jm7;Ym7MIcEm2<EUmNEI-UcI-AcImHaI-Ocm3eEm4jRAEAcm1
 MmCBm1yUm1jIn78m7nmAhmgvEmYxm1;EbJONGpmd~BpnBn;a>Spns|Bc|Cc|Dc|Ec~Rc~QpXupsR_3psXprvnOznIDm2ppXmpyo
 ~FnWMpyiANm38oDeq2Fn`?q51mGAq8z~m3EnpYo8:mpmm=fonim>xm4@mA^o:Fm3qo<C9m4Zp`am88ANm38oW6m34nWwRINm>6m
 L@m2pq]nmN:m2NmEqm3XmEom38p@WmAzmR_qlGmBNqQAm[[AqOZqMGqHWpmapmlmPBm3updCmfrpZVm1wpqZm32prCpA8mR=nKP
 m2_mQim2_nBkm2^m;5pI0m;Dm2pm6Fm2pmqDm3EmSUm3Fmkorwxa_I,QHAcHUcHIcHAAcHEsUHOcHOt9Q2LUcLIcLAAcLEEcLEc
 LOcLWAcHm;sm<8m<Hm<Ym<jm<ym=>HWAcMAcMUcMIcMAAcMEEcMEcMOcMWAcSZm0qUcSZIm2]m2mEEm16cSZOcSZWAcRt@[2RIt
 UZHREEcREcROcRt9qMSUcSIcSm<Xm<HEcSOcSWt<Q6.tS4<cSHtUAuc(BcSHOcSmP0QAcQUcQIctS4LEEcQEcQOcQOAcQWA@124
 m1wIm2mm1wm7:WE@1250cmq@QHUcQHIm2]m2mm6eHm0qOm7Z8cQHm>f5m64WIm3Cm2Mm8bm?[60cBAcBUcBItTDyBEEcBEcBOcB
 WtEf:VUcVIcVAAcVEEcVEcVOcVWtU<eTUcTIcTAAcTEEcTEcTOcTWAcCAcCUcCIcCAAcCEEcCEcCOcCWAcXAcXUcXIcXAAcXEEc
 XEcXOcXOAcXmTz8m1wIm2mm1wm7:mT990tFBeUcNIcNAAcNEEcNEcNOcNWtUPnYUc.4cNYm6DYm6TYm0qOcNYWAc*IAdUdIdAAd
 EtTZLdWtUa]KUcKtVqycKEEcKEcKOcKOAcKmNEB2cKWIm2mm3sm7:mNEB8cKXAcKXUcKXIm2]m2mm6eXm0qn7wC0cKm^0C2m2<m
 8@m?;m^`Km^qC8rVQUrRym6Dm5orV0OcWOAtnLJ mXkmDiD8cZAcZUcZIco0Ho08ZEcZOcZt>HkHUcZHIcZnYsZnYs:DcZHOcZn
 o0rXmrkjmrFmr6rKNrY2AcDAcDUcDIcDAAcDEEcDEcDOcDn3N0cDm64m6Dm6Um6fm6um7:m7JJAcJUcJIcJAAcJEEcJEcJOcJWA
 cGAcGUcGIcGAAcGEEcGEcGOcGOAcGmq@312cGWIm2mm3sm7:mpJ318cGm<ym=>m=Nm=`m=pm>4m>Dm:n%LcTHUcTHItX8rTmeX&
 8c.EcTmeH%EcCHUc)WcCm6eCm6e+McCHOcCm6vUcPm6uRn7Fn8LEEm16cPHOcPm7:(WcTSUcTStVTQcTou0TSm0qOcTouaTZm0q
 UcTZIm2]m2mm7ZZm0qOm0qtQ60FUcFIcFAAcFEEcFEcFOcFWt=:8PUcPIcPmKRmKBEtB^FpIZYAcMYAcFYmq05Db&V]1!F$D;K!
 Scc$Dcb]1bb*2bWORDSPACEt]wU&Nb:Yb)NbbPREFm4y)J!St:Jeb$Ft=0dtGs`&Qc*Dc+Oc(Jc+6c+5c,Zc+Dc%7c$X(6@1380
 b,Q|Ipu]MWIcMnDeMWEc|Ip<LBWIcBm48Bm49mbVFWIcFm48Fm49m`kPWIcPm48PWEbTONAL!SYIZETdDERETdRIKRIKtREVDIF
 ATdKENATdCHIm6THIDm9:-m2_KURT@13A0aCHEROKEEtXiacIcOcUcVns8Knq]nsjOnufVcqaqEqmjOqofVqknEqknOqmjVqbFq
 _DIq_vUpN8HpNyAHpLmpOoOpQlVcQUqJLEcQUIcQUOcQUUcQUVq]9qYVq]XOq_UVcDpwIDptxDIpx_DOo^hVcDLAcTm0rEcTLIc
 TLOcTLUcTLVnt@EntAOnvnVp@EEp@EOpBAVouQEouQOowMVcMV@13FtvGhYEdYIdYOtk;:Vdm5o400aCANAt]?ktC55S;GcEcAA
 It>z_tJ[;b:6c;AEEdIcAcpXEcb$QmK2m1Xm1jOm1Ym1ib<DmScm49AAm4=AIc:6WtS1l!T%Rd%6d(Ntpw9&UdctpR0d!M%Re&E
 !7STnL4Sd!8!Od&E$3$Cd!1d!5*LcEt<u8ONcANoPImW:oTPIIoRvmX5HEEdHoY_oZFmY8nt>m1km20Om1km1zmYIPmYYmA7Pm2
 <mBLrBImHqrFPIIrDvmHvDEo4qnQBrLEmHtTmHtTmHu!m3UmHeTmHdTmsDTcTmG:mFDTOc%Zr2YmJ<r6aIIr5;mJ?KAr:ZmHBr7
 Fm1km20Om1km1zmHSKmHXKcKWcSOUTH-SLAVEY KEHdKIHdKOHdKAHrsjmL8rwqIIrvKmL;CAs0kmL;CWIm1km20Om1km1zmL;C
 mL@Cc<9THo_^mFDo`cIoaZmFGMAt7JrmFFpNym1km20Om1km1zmFGMmFLMm4:HcATHAPASCAN Mcb<9ou1mJLov6IovymJONAsN
 omJONmC5NmC:Nc;tHtRHpBQm?ZpCVIpDNm?^LAt88Am?^LWIm1km20Om1km20Am1km1zmHB%KpF9mF4pG>IpH6mF7SAt7x`mF7S
 WIm1km20Om1km1zmF7Sm^6ScbmokcSWcBLACKFOOT Sn=:SE-CREE SKc<DSKWdS-WdSPWAdSTm16Km16nOg(Bt8GLIIt8EaOOc
 $8t8K5mSwHWIm21m2AOm21m2AAm21m2@ph?mjgpiDIpj<mjjYAsg_mErYWIm1km20Om1km1zmDlYmjoYcbBIBLme9m?m<9YIcRE
 cbRm4J$QLEcRmLXRm0aIt9:HmbwQLOcRAm5om2]AcRmC6RnHqs6Mm<Xs:TIIs8zOOs>ms=Wm:PFsc4bNmH1shRm2em2rsj?n1s%
 LsoOmppTHcTTHpAJsuPTHOc&Mm1gcTYEcTYIcTYOcTYAcNUNAVIK Hpu]dHIIdHOdHOOdHAdHAAdHcbm7[UTcHKcQmX@Qm0aIt9
 ]UOcQAt9b3cTLmH@LmH@LHr9cHmiPREdRIdROdRAcNGoZEGm0rm16Om0qOc$5m5pcoSJNGc<9(BdSHIdSHOd$8qlsDSme9&8dTH
 Id.Ed%LdTHcmGZLml2mHPLmjVmIFLmjgLHcTHm;Ym0qm<Ymrwm=aAAm>eAIVILIK Bo?9EdtIEZdWEdWIdWOdWAdNEdNIdNOdNA
 dKEdKIdKOdKAc<9mu;msLc;AGHUdGHOd:MdGquXGHId&BdRUmiPmkLEmlDAdWUmCcmE_EmFVAdHWUdHWOdHWEm0qm16IdHWmTXU
 mXqm]9EmZ]ImZMTUdTTOdTTEm0qm16Id%ZdPUdPtqFDPEEdPIdPAdPdGUdGOdGEdGmPPIdGAdKHUdKHOdKHEm0qm16Id%GdKKUd
 Kma@mcLKm5>mdcKAdKKdNUmiPmkLEmlDAdMUdMOdMEdMEEdMIdMAsJvOdsN<EsO4AdJUq6U;AJOdJEdJEEdJIm4<AdJJUdJm5om
 64m6EJIdJJAdLUdLOdLEdLEEdLIdLAdDLUdDLOdDLEm0qm16IdDLAdLHUdLHOdLHEm0qm16IdLHAdTm5_nvZm16Em17m1FnYsm6
 gm6Tm6Dm4im5pm5_AdZUdZOdZEdZEEdZIdZAdZdb$PdDZUdDZOdDZEm0qm16Id.0dSUdSOdSEdSEEdSIdSAd.Uo6Mo8jm4XHItr
 OGdTSUdTSOdTSEm0qm16Id(WdCHUdCHOd+MdCm:m)Wd%nLum:<m:Mm:^m:om;2TTSAc)W!Ec(K%8cQoWtm16oY?oYPoY_m16m1G
 Am17AoU^ TnmfTnmum16m1GOm17m1GAm17Ad!p>8oK0WaOGHAM:ZtQ28BEIocDUIScFEARNcSAILcNIONcUATHcDAIRcTINNEcC
 OLLcCEIRTcMUINcGORTcNGEADALcSTRAIFcRm?kAILMcONNcURcEADHADHcIOm1iEABm1hORcUILLEANNcIFINcEAMHANCHmEoP
 mP@bFEATHERtw:4A@16A0aRUNIC!BFEHU FEOH FE FcVcURUZ UR UcYRcYcWcTHURISAZ m1wS[7cEp;FNSUZ AcOS OcAC A
 cAESCcLONG-BRmK2-OSm64bSHORT-TWIGm3scOt[Q:NcRAIDO RAD REID RcKAUNAcCENm2= KcGcENGcGEBO GYFU Gc)PcWU
 NJO WYNN WcHAGLAZ HcbHAEGLcbmKZHAGALLmKkm4<NAUDIZ NYD m2L Nm89m48cDOTTED-NcmfpIS ISS IcEcJERAN JcGE
 RmdKAR AEcm?Pm3dcIWAZ EOHcPERTHO PEORTH PcALGIm5_LHXcSOWILO ScbSIGEL mBuSOmZ5m3SCcZcTmCSTIR TYR Tm7
 tTYRcDcBERKANAN BEORC BJAm3R Bm9Om4lmdgPcOPEN-PcEHmX1H EcMANNAZ*UMn1mMADRm@Hm3eLAUKAZ LAGU LOGR LmC
 gLcINGWAZm1VcDAGAZ DAEG DcOTtKA: ETHEL OcEARcIORcCWmr7cCALCcCEm1FSTANn6zYRn6Gm32ICELANDICm2mQcXb%N(
 Qbb;Lbb(ZbARLAUG!9bbTVIMADURbbBELGTHOtLKccSHcsMFRANKS CASKET OSeISeEHeACeo<0@1700aTneuOG!BAcIcUcKt=
 V@$5t;@4AtIpHBAtIo:t_OXIdtTnOcPAMUDPOD@171FtTX@RAaHANUNOOmDJmDWmDWmDWmCgaPHILIPPINEmk_!M@1740aBUHID
 mEomF2mF3mF3@176mjxBANWAm@>m@?m;2Em@Tm3272m@x80aKHMEtJy]tPX@so^tJyyt@4Im3cYOmCc&McDOt7L^NNOtJyztPQG
 cNOmHq%UtPO<tPHcROcLOcVt8aQSOm]Ym`;QAb[J$DQAQdQAAdQIdQIIdQUdQUKdQUm1gUVdRYdRYYdLm0aYdQEdQAIdQOO tNz
 _Jf!IdQtK;FINHERENT AQdAAcb!EtPQ0dUAdOEtw]rdtQgPAItVM:NIKtQV0REAHMUKcYUUKALEAPINTUcMUUSIKATOANcTRII
 SAPcBANTOCcROBATcm5_DAKHIATcKAKAm4HAHSDn5kMYOK SANNtUrcRIAMcCOq3BBATHAMASm;BHtIGFRIYOOSANcCAMNUC PI
 I KUUHcLEK TOOcBEYYALcPHNAEK MUANcKOOMUUTtRMFRIELb!EAVAKRAHASAmI6ATTHACAN@17EtPrptPrv17F0b!9mHPATTA
 K SONeMUOYePIIeBEIeBUONePRAMm17-m64m2>m7:m1xBEm1zm9F@1800aMONGOLIAN=Ib]Yb&Nt?Al)Nb!N$IbTODO;S;GbSIB
 E,QBOUNDARY^Lb^J&NsDbbNIRUGUbFREE^7SELECt`HDe!Ie!Lb$D+Fm6@Nmd^mdb820bt>pyrJXUEcEEoPX:Eth^eQoVLoRTLo
 aY$8oXIoHIJoh6Wt@<8oPZ(WcZo<PAcZomaHAtANq)Wcmbw$4o]qdt8uzUnuDUEd:EdBtNw<QAdGAdMAdTAdDtO9KtNy8YtNwLK
 m6Tt9nlJIAdNIAd.0cms] o>=Ym@PUm@qm97dHmB=$8m@sm@@Fm>HmB^ZAdRAmF5*Ec^JIm;sRm80m3R%tdpq@1880cALI GALI
 %9!Jeb(CeDAMARUeUBAm2<eb%TeBALUDAeb!LeAeIeKAe$5eCAe%Ze&Me%0e&GeTAeDAePAe%Ue&Te*EeZAeAHmn? mEs TAfmO
 [m3g&Bf$5fCAf&6f%Zf&RfTAf%5f&TfCYm9VfZAmSG$TUfYAm=VIm69 rCNLGm6] LHA@18Bt?Tl OYcAYcAAYcWAYcPOqbVYcP
 WOYcTAYcKm0qm5_MAYcNOYcNAYcLAYcSOYcSm1gHm1wHm2=m;RYm0qAYcRm:LWIcb^Sm1gm20Om1km1yRWEEcRWIm0qm16Om0qt
 E6Q^SPdTdKdCu@[kSdSHctMoSWcbtMv<c!T!C$2d)5!OcRt8Z^RWEt<9FOdLt;jltB]sTm2LqKdqLzm64Lm3tLm3s<9SHWEdSHO
 Odm3R;AGWUdDENE GEEngrGWAc<9JUUc;AJWAcBEAVER m7lLeRc;Au;V2S@1900aLIMBU tTYF-CARRIqqatRNrtOq3Yq8PtOl
 utOlvtRFfGm<jRA@1920tU4FIdUdEqUTdEdOb[5!BYoC;Wm9V30b!CmOkd$5d%9oQ_NoTAMtQZJb!EMUKPHRqIwKEMm2?SA-I@1
 940cLOOm1w4tkEhb)JpOWpO^aTAI LEmIGXmIwog]SAozotR5hLtR4SMognVou1QtO<L.FmRLm`:EEdEHpCwOpERr>1Umcm@197
 0d[9/4@1980aNEW mHQUE!B$7QAeb$Me$7KAfXAf$5e$Mm2R7(WfSAfYAe$Mm2R7oa8LfNm4im2R7PAf%UfMm4im2R7FAfVAfLm
 4im2R7HAfDAfBm4im2R7KVAfXVm4Xm2A7SUmS3@19B0dnHL$Dt7sPENERfAAfIIfUfUUfEfAEfOfOAfUEfAYfAAYfUYfOYfOm2<
 EYfIYd!B!TVfNGfNfMfKfDfBd&P^K/1@19D0dnAseqj:e!Ne!Qe!Ye!2e!Ze!3drkX$F!Jm9wEd!ELAEeLAEVsxU9PrryrIR KO
 ETcbPovFBEm16UONcbrJHcbrQhm2Om8ArR;m2@m:NDAPm17m9xm2=m9gm1yBEm1ym9L-mDYTUTEYmMeROCmMNmM]mM^mM^mM^mM
 ^mM^aBUGINESo:Tt7znNGKt7z0MPAt83hNRAoyyJtGa6Cos;Vr`7t8F:ol;dAE@1A1EbPALLAWAtsF]*2oSln;No;ZKAe%GeKoU
 VMKAm1we%GoX8$7qyqEd$MCAeSm2M%FdRATAd$7RnIBrOw$Mm2NRANm5>TAe%Ld$Mm1ho]qBm4ir::Fm9wPAeFAeohT$MYAdb$7
 p;wRUEonVLUErq<$7$8rDTSAeHtl_8m9gHtS?wEdqCCEd[ESActS:bRoOdLA TANG LAIcb!EtXbwGm7K!TojNmLXcmZ? OReMA
 eBmaq@1A60c!ESAKOTcpkre.3SATeAAebTALLeIeIIeUEeUm0qeUUeOeOA!VeOYeEeAEeOOeAIebn1Bm5NKcmKVd^5/1dKHUE
 N tR3l/2dRt[rJMdmEoMm6F-LUE KARAN@1A7Fc&V]Q!OcHORAo^No^U@1A90cmJLm91m95AmbwWImPqm1GWAAKdSAWANdKEOWd
 HOYdDOKMAId%A+EnLv.3tZd:dKAANm17KUUdSATm2Lm1gm4<HmB]CAANG@1AB0a&VtlrLu9qeDIAERESIS-RINGb]6b$J!PtxWN
 bX-u9F8WIGGLY%2bb$9!Sbd!Mbb$S|Z$CbdSTRONGbPARtoN<SEStk?BMm41Vc<Fu9DNW!Vec$Vb!H)4!K!Hb!Gm1xGm3uVm3wV
 !Gb$WBRACKETmB<b%I!Eu:Pfu:aAmNDe!Vb&0%R(XmEQ;8GfRfT@1B00aBALop4EULU RICEMd,WcCECEKcSURnsHBISAHb!BAn
 OFd;UcIm20Um20RA REPAe;UcLA LENGm2^Em6ucAm:McOm9kKAd=1cGAdGORp=dCr_qp85dJERp9;TA LATIKd;M=1cDA;MALP
 APnLDe=1cNA RAMt:CJrSoWpGodMADUs@JdKAPALcBAdKEMBmZLt;`k SAGAdSAPt;cS!EREREKANpNY;UdULUeSARIdSUKUeIL
 UTdmbzf;Udmbzm2^TmwDGemhnebm1wdPEPETe;UbADEG m16b!B(USASAKcbKHOTcbTZIRcbEFcbVEcbZuBRLSYURAc+UJNYA@1
 B50sFvsG1bPANTIbPAMADAbWINDUbCARIK PAMUq>uHcSIKIcnnZRENm96ENENGb;N!9DONGdDEm16Um16ANGenS0dDIm3dm65E
 m6FIm7^ GEDEd&VTEGEHeENDEPest:ULm1WLIeJEGOGANebm50!Aecm5bBm:<eGmIwtwZ4-HAND$9DUGfDAGe(YTUKfTAKdLEFm
 6HPANGfPUNm6ePLAKfPLUKe$9Poc4mhK LANpvcbmjHmu880aSUNDAo;<PANYo8zm@PLAYARm2=WISADbt=7zAEcOcEcEnyLcQr
 ;1r4GZnvkt==RFr5:t=NptM6atVMyPAMIn:8LdmL8AKRAm1xIKUnlOmLXHULUm4YUKm1hAsLPNGm2LOLOm1xMnfZm3cEULn;_bm
 CCAAEHc&YmFWtQIRN MAeWAb!B%GcSYAncBncG,Cb!BREUcLEUc&Ic!TKdMaBATAKmm8b;RcHm1XbtrE[o=gmeybKAROcPm66NA
 m6nWm:pPAKPAKcGm3DJmuIRm2oMm1WtH<YERN TAcbNORm2ncSmHoYm49n<DLm2>%Fn>PNDAcMnFRb!ETOMPIt^t@mK5r[_IdmU
 OdOm1jUe(E;RSn@=n44HndNGOLATm1wONGONr76BFCb!9BoSk NA METEKdPINARBORASdJUDULdm<maLEPCHAsllKLt9gCGLAt
 9gVndB%LnduPm9VUnfJFLnf[BLsw>Lt]:1njGn;_Hstp$8n4DAt9d3t]3Vt[y4sI1mbhKdMdLdNdPdRdTdNYIN-DOdru4pfRANc
 )3@1C3Bb(QTA-ROLcbNYET THYOOMcCER-nKNTSHOOKcm1Xnigt==9C4oUwtZDdaOL CHIKItXL_tXLhc!BLAdATdAGd:EdALdL
 AAdrw0AAJdsJeAAWdLIdISdIHdINYdIRdLUdUCdUDdUNNdUYdLEdEPdEDDdENdERRdLOdOTTdOBdOVdOHcMU TTUDDAnAsAHLAA
 m3UAGcbMU-m4[cREm1FPHAtt_XcAHADc(QMUCAAu4MVa.LrTT<GVEdohs-LEGGED DEdNARROW OdWIDE ESq^NL TEdbtl9km9
 9m4j<W!EeYATdUNBLpoHD UK@1C90a]2MTAVRULItY6Qem0qq0qDONeENeVINeZENeTANeINeKANeLASe*UeNAReONePAReZHAR
 eRAEeSAm96ReUNePm4HKm16GHANeQARe(VeCHINeCANeJILeCm0qm7JXm3cm8@HAEeHEeHIEeWEem5oHOEeFIeYNetXZme$VmQw
 (L@1CBDeAENem`ltXWmq=4(QoUySURYplWGpcsURNAMAdCpqULEU SAqL8Aol:dbDAdbBA@1CD0athWN&PKARSHANAcSHsEgPRE
 NKrp7NIHSHVASAc~3MIDsbo SVtvwabb&P~3AGGRAVATED[Jdb[JdcKATHAKAc,W!Vc~3m3E[Jm;v SCHROEDERc!Mm4Kcb&0m<
 <_CctrisoG2RIGmT9 u59Mm@Uccm;BRVAm6vbb!E(CdtqjWuCJH(C_Cm1zm4k!A&4dc_Cc%9r=ZRGOMUKHAdBAHIm2rVAMAm2`e
 m:]cTIRYAKcHEXIFORM$4%9cb$4ccRTHsm@%9UBHAYATO m;dcARDHAth1mcb+Eb&P,W!KtifQcATIKRAMAb&P$2!Kcc!Mb!E!M
 mPZ@1D00a%1uDZfAeAEbu9;Xbm4:=GBuAO_ETHem69$9eIm6xJeKeuKnZeMe%ANeOeb$9m8c>Nm2]euML=$VOEm;5OUm6f&U$TO
 dc(Nm51Pe%AReb$VeTeUm>It8qTZEDe$VMm9jVeWeZeEZHc<NLtR2XuCo@NTc(La+Pm8s*Se.QePIe)Ce.Cp0em4zEuDZFDAdAE
 dBdb=GuOV@b%AuOVlm4HqAVUq=QUdWc!CAuFrV(Id$Vm>5DduK1Vc$VdGd$VIdqIgr2XOdb$9dbmeHme8dPm?Kb>Nd$VMdVd(Ld
 +Kd+PuARr+PuAGoa%1?OmiaIeReUeVa+Pm3T+Ke*Sm]y)Rem8Qm4XUEdBuFsnddDddFddMddNddPddRfc[D!FdcS!AddTddZd$V
 GmhK.LENat9FudTH!ASTRIKETHROUGHcu<mR$CccuKYccPcm4IUm3S7mI6>C$mI;GddKddLmK:ddSdd,FddVddXmJmbAuKCNmuH
 uKzs!F&4dEuFvPe$9df%AdmxkdIdd$9Om=PUddEZHnDVC$V(IdCuFuiuOCouGqnFuGrF*1n92HuGiad!DIfm2^uFjhLmGmfb>Cd
 !DuGfmn;_uGXnuL8[fb)Kd!DNd=GOd)RduGX@Tmf>uGQ7!DUuGQxdZeuGNid)Ua&V)E%6uFJLRbSNAKE!VbSUSPENSty?lMACRO
 N-ACUTEbpcqE-m4:m5cm4Ibm6um5cm8Rm;4m6nm5EbnLwR!VbBREmBYm4Ib!M%p;gb<5b>Z!VbbISbURm3sUSbm>GFLATTENED$
 9p7NeAOeAVeC+Xe;8p5eGcod^cm:LKeLm3VfMm3tNm3WRm3SR ROTqjweSeb$4eZe(IeBe+Ke>KeFpAZ!Mo7Rp=Bt;enePe,FeU
 m3GWeq48OecOecUuF8q!Kb[uE9Jd!Hbc!Obroq%T?X!VbqPq!HbDELETn6Qmf_T&9!VuEVltw;]uES7F!5*6!VamhJuKcKu=cDB
 u3Ulm3]uK4Fm3g%2uPi@XuL^_Dm>?Dm>@Dm>=DuJzIm69Wm9guPuGuLkEm40mHYEm;Im3hBm>ZmS4&9m:bFmS=Gu?`>Hm6Xm3Zm
 OrHu?XuHuQ47&9mN<ImN=IuMTeuPmsuAjamq]KmqUuKR;uPj5m9yuKfKm4N%2m>Gm3hWm;7MuM@mMmcWMmcWNm75NmRXNmRVNmG
 OuLDDmd4m42&Om3ynMNm42mooPmolPmOmu?ovRmHERmYARmoCRmVDm7rSmA8m3]m74%R!FuNXDduQ@Xm3Dm;JiuBgy!Am>9TmsX
 TmsVTmsQuATQm3K%Bm3Im9km6JuO?s2n2AVuQYRVma;WuNd:WnZrWo<IWmq;Wm@;Xm75Xm=WYm6`ZuRB4Zmp6ZmoyddHqsm&OdW
 uO:jddYdA!AuK2k$4nFdg(A$Cgb$7m=`[2uQOpuQXwAmU9Arc9Km3Z%Wmwgm436m44m<9hm8KBm8LmGkm8H&9mDJm436m42mDJm
 <EBm8JmDOcp_lpbPm`0phvepoaps_q0Jmc;Emc9Emc;ImJxIn6cogBpVoOm9QOmQCOmQCOmQEOmQCOmQ<m8H*AmDJm436m42mDJ
 m<EBm8Jn9>Un99Um`5UmJjUmJjUmJem8KBm8Jm`5YoknYo<KYmNOYnWOMIDDLE-WELSH LLbdm5M Vbdm=D,8m=>a+PuJMQ$1f$
 Zf$1!F&Lfcm2PJm2Q)Hm2LuK1gm:Km:Koj`)Om:Bm:K@1F18mC2m92m9520p1LHm8rm95mVCm:Cm:KmVC(Tm:=m:KmDWm:Cm:Km
 DW+m:Fmbf4mkLm93m955mkN(7m93mL7m;F9mD8m;Cm3TBgm;Bm2<Dh&Jm1gFh)HmCDGmCCmCQmjUm:Dm:Kn3nssuLf&Jd)Om2@*
 Hm2@(Tm2@+m2A(7m2AGm2=mV580dnu6!F.XmFfcmKfem2bJm2_mL;eo65!F?mP@m<6m<7npzmGvm<7mGz*HmGvm<7mGz(GmGwm<
 7m`jGmGom<7m<7n=b]Cf&2f&LmI7.Xfb&J!F@1FB6f)Hgm4imE>m9Mn;?f?HbuO::b?Hb$1b)Hbb:J!FmsrmB:CmB6nVkmBrmXc
 dn^knvnTmJamDi&Lo2gDm@afmHtDm8Hn_4DDb$Zm@]7m@^d)Co6Onn[mBV7mBSm9JZm6umBoboRUF2nF4mf=Fmf8o;AGmf5&Jb$
 Z"

end Componentry.Text.CharacterName
